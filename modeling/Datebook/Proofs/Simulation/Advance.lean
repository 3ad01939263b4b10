import Datebook.Proofs.Routine.Calls
import Datebook.Simulation.Scene

/-!
# Routines that are held up

On a scene a routine goes on until it ends or one of its calls is held up, and goes on later from
there. What it makes of the scene is made by the calls it finishes and the faults it uses up. So
where a routine makes only calls of a kind, whatever is stable under these holds of the scene
throughout, and what is left of the routine makes only calls of the kind as well.

## Main definitions

* `Datebook.Scene.Stable`: what the calls of a kind keep true of a scene.
* `Datebook.Active.Makes`: a routine under way makes only calls of a kind.
* `Datebook.Active.Finishes`: what a routine under way comes to if nothing else happens.

## Main results

* `Datebook.Routine.Makes.advance`, `Datebook.Active.Makes.resume`
* `Datebook.Active.exists_finishes`: left to itself, a routine under way comes to an end.
-/

namespace Datebook

namespace Scene

variable {s : Scene}

/-! ### Faults -/

/-- A fault that is used up is gone, and nothing else changes. -/
theorem exists_takeFault_eq (s : Scene) (op : Operation) :
    ∃ faults : List (Operation × Fault), faults.Sublist s.faults ∧
      (s.takeFault op).2 = { s with faults } := by
  rw [takeFault]
  split
  · exact ⟨s.faults, .refl _, rfl⟩
  · exact ⟨_, List.eraseP_sublist, rfl⟩

/-- Without a fault on an operation the next call of it goes through. -/
theorem takeFault_of_forall_ne {op : Operation} (h : ∀ x ∈ s.faults, x.1 ≠ op) :
    s.takeFault op = ({}, s) := by
  have hnone : s.faults.find? (·.1 == op) = none :=
    List.find?_eq_none.mpr fun x hx => by simpa using h x hx
  rw [takeFault, hnone]

/-! ### Calls that are finished -/

section Finish

variable (s) (now : Nat) (c : Call) (failure : Option FaultKind)

theorem faults_finish : (s.finish now c failure).2.faults = s.faults := by
  cases failure <;> rfl

theorem flag_finish : (s.finish now c failure).2.flag = s.flag := by
  cases failure <;> rfl

/-- A call that is finished is noted before all that were noted earlier. -/
theorem trace_finish :
    (s.finish now c failure).2.trace =
      ⟨now, c.operation, c.note (s.finish now c failure).1⟩ :: s.trace := by
  cases failure <;> rfl

/-- A call is answered, or is made to fail and does nothing. -/
theorem service_finish_cases :
    (s.finish now c failure).2.service = s.service ∨
      (s.finish now c failure).2.service = (s.service.answer c).2 := by
  cases failure with
  | some kind => exact Or.inl rfl
  | none => exact Or.inr rfl

end Finish

/-- The calls of a kind, the faults they use up and the phases of the scheduler keep something true
of the scene. -/
structure Stable (kind : Call → Prop) (now : Nat) (P : Scene → Prop) : Prop where
  takeFault : ∀ s op, P s → P (s.takeFault op).2
  finish : ∀ s c failure, kind c → P s → P (s.finish now c failure).2
  enter : ∀ s phase, P s → P (s.enter phase)

end Scene

/-- Whatever comes of its calls, what is left of a routine makes only calls of a kind. -/
def Active.Makes {α : Type} (kind : Call → Prop) : Active α → Prop
  | .done _ => True
  | .held c _ _ cut next =>
    kind c ∧ (∀ o, (next o).Makes kind) ∧ ∀ limit r, cut = some (limit, r) → r.Makes kind

variable {α : Type} {kind : Call → Prop} {now : Nat} {P : Scene → Prop} {s : Scene}

/-- A routine that makes only calls of a kind keeps true what is stable under them. -/
theorem Routine.Makes.advance {r : Routine α} (hr : r.Makes kind)
    (hstable : Scene.Stable kind now P) (hs : P s) :
    (r.advance now s).1.Makes kind ∧ P (r.advance now s).2 := by
  induction r generalizing s with
  | done a => exact ⟨trivial, hs⟩
  | enter phase next ih => exact ih hr (hstable.enter s phase hs)
  | call c next ih =>
    have hfault := hstable.takeFault s c.operation hs
    rw [Routine.advance]
    dsimp only
    split
    · exact ih _ (hr.2 _) (hstable.finish _ c _ hr.1 hfault)
    · exact ⟨⟨hr.1, hr.2, nofun⟩, hfault⟩
  | within limit c next ih =>
    have hfault := hstable.takeFault s c.operation hs
    rw [Routine.advance]
    dsimp only
    split
    · exact ih _ (hr.2 _) (hstable.finish _ c _ hr.1 hfault)
    · refine ⟨⟨hr.1, fun o => hr.2 _, ?_⟩, hfault⟩
      rintro _ _ ⟨⟩
      exact hr.2 none

/-- A routine that was held up goes on in the same way. -/
theorem Active.Makes.resume {work work' : Active α} {s' : Scene} (hwork : work.Makes kind)
    (hstable : Scene.Stable kind now P) (hs : P s)
    (hresume : work.resume? now s = some (work', s')) : work'.Makes kind ∧ P s' := by
  cases work with
  | done a => simp [Active.resume?] at hresume
  | held c failure due cut next =>
    simp only [Active.resume?] at hresume
    split at hresume
    · have hgone := Option.some.inj hresume
      have hadvance := (hwork.2.1 (s.finish now c failure).1).advance hstable
        (hstable.finish s c failure hwork.1 hs)
      rwa [hgone] at hadvance
    · split at hresume
      · next limit r =>
        split at hresume
        · have hgone := Option.some.inj hresume
          have hadvance := (hwork.2.2 limit r rfl).advance hstable hs
          rwa [hgone] at hadvance
        · simp at hresume
      · simp at hresume

/-! ### Flag and faults -/

/-- Every routine makes calls of some kind. -/
theorem Routine.makes_true (r : Routine α) : r.Makes fun _ => True := by
  induction r with
  | done a => trivial
  | enter phase next ih => exact ih
  | call c next ih => exact ⟨trivial, ih⟩
  | within limit c next ih => exact ⟨trivial, ih⟩

theorem Active.makes_true (work : Active α) : work.Makes fun _ => True := by
  cases work with
  | done a => trivial
  | held c failure due cut next =>
    exact ⟨trivial, fun o => (next o).makes_true, fun _ r _ => r.makes_true⟩

/-- No routine changes the flag or lays a fault. -/
theorem Scene.stable_flag (now : Nat) (s : Scene) :
    Stable (fun _ => True) now fun t => t.flag = s.flag ∧ t.faults.Sublist s.faults where
  takeFault t op h := by
    obtain ⟨faults, hsub, heq⟩ := t.exists_takeFault_eq op
    rw [heq]
    exact ⟨h.1, hsub.trans h.2⟩
  finish t c failure _ h := by
    rw [flag_finish, faults_finish]
    exact h
  enter _ _ h := h

theorem Routine.flag_advance (r : Routine α) (now : Nat) (s : Scene) :
    (r.advance now s).2.flag = s.flag :=
  (r.makes_true.advance (s.stable_flag now) ⟨rfl, .refl _⟩).2.1

theorem Active.flag_resume? {work work' : Active α} {s' : Scene}
    (h : work.resume? now s = some (work', s')) : s'.flag = s.flag :=
  (work.makes_true.resume (s.stable_flag now) ⟨rfl, .refl _⟩ h).2.1

/-! ### Routines that are left to themselves -/

/-- While nothing else happens but that time passes, a routine under way comes to a value: the time,
the value and the scene then. -/
inductive Active.Finishes : Nat → Active α → Scene → Nat → α → Scene → Prop
  | done (now : Nat) (a : α) (s : Scene) : Finishes now (.done a) s now a s
  | resume {now time last : Nat} {work work' : Active α} {s s' t : Scene} {a : α}
      (hle : now ≤ time) (hresume : work.resume? time s = some (work', s'))
      (hrest : Finishes time work' s' last a t) : Finishes now work s last a t

/-- Wherever a routine is held up, it can go on. -/
theorem Routine.exists_finishes (r : Routine α) (now : Nat) (s : Scene) :
    ∃ last a t, (r.advance now s).1.Finishes now (r.advance now s).2 last a t := by
  induction r generalizing now s with
  | done a => exact ⟨now, a, s, .done now a s⟩
  | enter phase next ih => exact ih now (s.enter phase)
  | call c next ih =>
    rw [advance]
    dsimp only
    split
    · exact ih _ now _
    · obtain ⟨last, a, t, hrest⟩ :=
        ih ((s.takeFault c.operation).2.finish (now + (s.takeFault c.operation).1.wait) c
          (s.takeFault c.operation).1.failure).1 _ _
      exact ⟨last, a, t, .resume (Nat.le_add_right _ _) (if_pos (Nat.le_refl _)) hrest⟩
  | within limit c next ih =>
    rw [advance]
    dsimp only
    split
    · exact ih _ now _
    · obtain ⟨last, a, t, hrest⟩ :=
        ih (some ((s.takeFault c.operation).2.finish (now + (s.takeFault c.operation).1.wait) c
          (s.takeFault c.operation).1.failure).1) _ _
      exact ⟨last, a, t, .resume (Nat.le_add_right _ _) (if_pos (Nat.le_refl _)) hrest⟩

/-- Left to itself, a routine under way comes to an end. -/
theorem Active.exists_finishes (work : Active α) (now : Nat) (s : Scene) :
    ∃ last a t, work.Finishes now s last a t := by
  cases work with
  | done a => exact ⟨now, a, s, .done now a s⟩
  | held c failure due cut next =>
    obtain ⟨last, a, t, hrest⟩ :=
      (next (s.finish (max now due) c failure).1).exists_finishes (max now due)
        (s.finish (max now due) c failure).2
    exact ⟨last, a, t, .resume (Nat.le_max_left _ _) (if_pos (Nat.le_max_right _ _)) hrest⟩

/-- What is stable under the calls of a routine still holds when it has come to an end. -/
theorem Active.Finishes.stable {work : Active α} {last : Nat} {a : α} {t : Scene}
    (h : work.Finishes now s last a t) (hwork : work.Makes kind)
    (hstable : ∀ now, Scene.Stable kind now P) (hs : P s) : P t := by
  induction h with
  | done => exact hs
  | resume hle hresume hrest ih =>
    obtain ⟨hmakes, hs'⟩ := hwork.resume (hstable _) hs hresume
    exact ih hmakes hs'

end Datebook
