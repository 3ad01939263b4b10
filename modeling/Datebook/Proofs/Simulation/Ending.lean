import Datebook.Proofs.Simulation.Advance

/-!
# What a routine is bound to end with

A routine that nobody disturbs goes on as soon as it can: a call that is held up is finished when
its delay is over, and is abandoned when its limit strikes before that. So it is settled from the
start when the routine ends, with what value, and what it leaves behind.

However far it has come, a routine under way is bound to end in the same way; the flag has no part
in it. A routine whose calls are not held up ends at once.

## Main definitions

* `Datebook.Ending`, `Datebook.Routine.ending`, `Datebook.Active.ending`
* `Datebook.Routine.CallsAtMost`: a routine makes at most so many calls.

## Main results

* `Datebook.Routine.ending_advance`, `Datebook.Active.exists_resume`: what is done does not change
  the ending.
* `Datebook.Routine.advance_of_prompt`: a routine whose calls are not held up.
* `Datebook.Routine.Makes.ending`: what the calls of a routine keep true of a scene.
-/

namespace Datebook

/-- A routine has ended: the time, the value and the scene. -/
structure Ending (α : Type) where
  time : Nat
  value : α
  scene : Scene

variable {α β : Type} {now : Nat} {s : Scene}

/-- The ending of a routine that begins now and is left to itself. -/
def Routine.ending : Routine α → Nat → Scene → Ending α
  | .done a, now, s => ⟨now, a, s⟩
  | .enter phase next, now, s => next.ending now (s.enter phase)
  | .call c next, now, s =>
    let (fault, s) := s.takeFault c.operation
    let (outcome, s) := s.finish (now + fault.wait) c fault.failure
    (next outcome).ending (now + fault.wait) s
  | .within limit c next, now, s =>
    let (fault, s) := s.takeFault c.operation
    if fault.wait ≤ limit.wholeMillis then
      let (outcome, s) := s.finish (now + fault.wait) c fault.failure
      (next (some outcome)).ending (now + fault.wait) s
    else (next none).ending (now + limit.wholeMillis) s

/-- The ending of a routine under way that is left to itself from now on. -/
def Active.ending : Active α → Nat → Scene → Ending α
  | .done a, now, s => ⟨now, a, s⟩
  | .held c failure due none next, _, s =>
    let (outcome, s) := s.finish due c failure
    (next outcome).ending due s
  | .held c failure due (some (limit, routine)) next, _, s =>
    if due ≤ limit then
      let (outcome, s) := s.finish due c failure
      (next outcome).ending due s
    else routine.ending limit s

/-! ### Going on -/

/-- A routine goes on to the ending that it is bound to. -/
theorem Routine.ending_advance (r : Routine α) (now : Nat) (s : Scene) :
    (r.advance now s).1.ending now (r.advance now s).2 = r.ending now s := by
  induction r generalizing s with
  | done a => rfl
  | enter phase next ih => exact ih _
  | call c next ih =>
    rw [advance, ending]
    dsimp only
    split
    · next hwait => rw [ih, hwait, Nat.add_zero]
    · rfl
  | within limit c next ih =>
    rw [advance, ending]
    dsimp only
    split
    · next hwait => rw [ih, hwait, Nat.add_zero, if_pos (Nat.zero_le _)]
    · simp only [Active.ending, Nat.add_le_add_iff_left]

/-- A routine that is held up can go on when it has to be seen to, to the ending it is bound to. -/
theorem Active.exists_resume {work : Active α} {wake : Nat} (h : work.wake? = some wake) (now : Nat)
    (s : Scene) :
    ∃ r t, work.resume? wake s = some (Routine.advance wake r t) ∧
      r.ending wake t = work.ending now s := by
  cases work with
  | done a => cases h
  | held c failure due cut next =>
    cases cut with
    | none =>
      obtain rfl : due = wake := Option.some.inj h
      exact ⟨_, _, if_pos (Nat.le_refl _), rfl⟩
    | some cut =>
      obtain ⟨limit, routine⟩ := cut
      obtain rfl : min due limit = wake := Option.some.inj h
      rw [Active.ending, resume?]
      by_cases hdue : due ≤ limit
      · rw [Nat.min_eq_left hdue, if_pos (Nat.le_refl _), if_pos hdue]
        exact ⟨_, _, rfl, rfl⟩
      · rw [Nat.min_eq_right (Nat.le_of_not_le hdue), if_neg hdue, if_neg hdue]
        exact ⟨_, _, if_pos (Nat.le_refl _), rfl⟩

/-- A routine under way waits until it has to be seen to. -/
theorem Active.resume?_eq_none {work : Active α} (s : Scene)
    (h : ∀ wake, work.wake? = some wake → now < wake) : work.resume? now s = none := by
  cases work with
  | done a => rfl
  | held c failure due cut next =>
    cases cut with
    | none => exact if_neg (Nat.not_le.mpr (h due rfl))
    | some cut =>
      obtain ⟨limit, routine⟩ := cut
      obtain ⟨hdue, hlimit⟩ := Nat.lt_min.mp (h _ rfl)
      rw [resume?, if_neg (Nat.not_le.mpr hdue)]
      exact if_neg (Nat.not_le.mpr hlimit)

/-! ### Time -/

theorem Routine.le_time_ending (r : Routine α) (now : Nat) (s : Scene) :
    now ≤ (r.ending now s).time := by
  induction r generalizing now s with
  | done a => exact Nat.le_refl _
  | enter phase next ih => exact ih _ _
  | call c next ih => exact Nat.le_trans (Nat.le_add_right _ _) (ih _ _ _)
  | within limit c next ih =>
    rw [ending]
    dsimp only
    split
    · exact Nat.le_trans (Nat.le_add_right _ _) (ih _ _ _)
    · exact Nat.le_trans (Nat.le_add_right _ _) (ih _ _ _)

/-- A routine that goes on has to be seen to no earlier than now. -/
theorem Routine.le_wake_advance {r : Routine α} {wake : Nat}
    (h : (r.advance now s).1.wake? = some wake) : now ≤ wake := by
  induction r generalizing s with
  | done a => cases h
  | enter phase next ih => exact ih h
  | call c next ih =>
    rw [advance] at h
    dsimp only at h
    split at h
    · exact ih _ h
    · obtain rfl := Option.some.inj h
      exact Nat.le_add_right _ _
  | within limit c next ih =>
    rw [advance] at h
    dsimp only at h
    split at h
    · exact ih _ h
    · obtain rfl := Option.some.inj h
      exact Nat.le_min.mpr ⟨Nat.le_add_right _ _, Nat.le_add_right _ _⟩

/-- A routine under way ends no earlier than it has to be seen to. -/
theorem Active.wake_le_time_ending {work : Active α} {wake : Nat} (h : work.wake? = some wake)
    (now : Nat) (s : Scene) : wake ≤ (work.ending now s).time := by
  obtain ⟨r, t, -, hending⟩ := exists_resume h now s
  rw [← hending]
  exact r.le_time_ending wake t

/-- For a routine that is held up it makes no difference from when on it is left to itself. -/
theorem Active.ending_eq_of_wake? {work : Active α} {wake : Nat} (h : work.wake? = some wake)
    (now later : Nat) (s : Scene) : work.ending now s = work.ending later s := by
  cases work with
  | done a => cases h
  | held c failure due cut next => cases cut <;> rfl

/-! ### The flag -/

/-- The ending with another flag. -/
def Ending.withFlag (e : Ending α) (flag : Flag) : Ending α :=
  { e with scene := { e.scene with flag } }

section Flag

variable (s) (flag : Flag)

theorem Scene.takeFault_withFlag (op : Operation) :
    { s with flag }.takeFault op =
      ((s.takeFault op).1, { (s.takeFault op).2 with flag }) := by
  rw [takeFault, takeFault]
  dsimp only
  split <;> rfl

theorem Scene.finish_withFlag (now : Nat) (c : Call) (failure : Option FaultKind) :
    { s with flag }.finish now c failure =
      ((s.finish now c failure).1, { (s.finish now c failure).2 with flag }) := by
  cases failure <;> rfl

theorem Routine.ending_withFlag (r : Routine α) (now : Nat) :
    r.ending now { s with flag } = (r.ending now s).withFlag flag := by
  induction r generalizing now s with
  | done a => rfl
  | enter phase next ih => exact ih (s.enter phase) now
  | call c next ih =>
    simp only [ending, Scene.takeFault_withFlag, Scene.finish_withFlag, ih]
  | within limit c next ih =>
    simp only [ending, Scene.takeFault_withFlag, Scene.finish_withFlag, ih]
    split <;> rfl

theorem Active.ending_withFlag (work : Active α) (now : Nat) :
    work.ending now { s with flag } = (work.ending now s).withFlag flag := by
  cases work with
  | done a => rfl
  | held c failure due cut next =>
    cases cut with
    | none => simp only [ending, Scene.finish_withFlag, Routine.ending_withFlag]
    | some cut =>
      simp only [ending, Scene.finish_withFlag, Routine.ending_withFlag]
      split <;> rfl

end Flag

/-! ### One routine after the other -/

theorem Routine.ending_bind (r : Routine α) (f : α → Routine β) (now : Nat) (s : Scene) :
    (r.bind f).ending now s =
      (f (r.ending now s).value).ending (r.ending now s).time (r.ending now s).scene := by
  induction r generalizing now s with
  | done a => rfl
  | enter phase next ih => exact ih _ _
  | call c next ih => exact ih _ _ _
  | within limit c next ih =>
    simp only [Routine.bind, ending]
    split
    · exact ih _ _ _
    · exact ih _ _ _

/-! ### The calls of a routine -/

/-- Whatever comes of its calls, a routine makes at most so many. -/
def Routine.CallsAtMost : Routine α → Nat → Prop
  | .done _, _ => True
  | .enter _ next, n => next.CallsAtMost n
  | .call _ next, n => 0 < n ∧ ∀ o, (next o).CallsAtMost (n - 1)
  | .within _ _ next, n => 0 < n ∧ ∀ o, (next o).CallsAtMost (n - 1)

/-- Whatever comes of its calls, a routine under way finishes or abandons at most so many. -/
def Active.CallsAtMost : Active α → Nat → Prop
  | .done _, _ => True
  | .held _ _ _ cut next, n =>
    0 < n ∧ (∀ o, (next o).CallsAtMost (n - 1)) ∧
      ∀ limit r, cut = some (limit, r) → r.CallsAtMost (n - 1)

theorem Routine.CallsAtMost.mono {r : Routine α} {m n : Nat} (h : r.CallsAtMost m) (hle : m ≤ n) :
    r.CallsAtMost n := by
  induction r generalizing m n with
  | done a => trivial
  | enter phase next ih => exact ih h hle
  | call c next ih =>
    exact ⟨Nat.lt_of_lt_of_le h.1 hle, fun o => ih o (h.2 o) (Nat.sub_le_sub_right hle 1)⟩
  | within limit c next ih =>
    exact ⟨Nat.lt_of_lt_of_le h.1 hle, fun o => ih o (h.2 o) (Nat.sub_le_sub_right hle 1)⟩

theorem Active.CallsAtMost.mono {work : Active α} {m n : Nat} (h : work.CallsAtMost m)
    (hle : m ≤ n) : work.CallsAtMost n := by
  cases work with
  | done a => trivial
  | held c failure due cut next =>
    have hless : m - 1 ≤ n - 1 := Nat.sub_le_sub_right hle 1
    exact ⟨Nat.lt_of_lt_of_le h.1 hle, fun o => (h.2.1 o).mono hless,
      fun limit r hcut => (h.2.2 limit r hcut).mono hless⟩

theorem Routine.CallsAtMost.advance {r : Routine α} {n : Nat} (h : r.CallsAtMost n) (now : Nat)
    (s : Scene) : (r.advance now s).1.CallsAtMost n := by
  induction r generalizing n s with
  | done a => trivial
  | enter phase next ih => exact ih h _
  | call c next ih =>
    rw [Routine.advance]
    dsimp only
    split
    · exact ih _ ((h.2 _).mono (Nat.sub_le n 1)) _
    · refine ⟨h.1, h.2, ?_⟩
      rintro _ _ ⟨⟩
  | within limit c next ih =>
    rw [Routine.advance]
    dsimp only
    split
    · exact ih _ ((h.2 _).mono (Nat.sub_le n 1)) _
    · refine ⟨h.1, fun o => h.2 _, ?_⟩
      rintro _ _ ⟨⟩
      exact h.2 none

/-- A routine that was held up has one call less to make. -/
theorem Active.CallsAtMost.resume {work : Active α} {n : Nat} (h : work.CallsAtMost n)
    {out : Active α × Scene} (hresume : work.resume? now s = some out) :
    0 < n ∧ out.1.CallsAtMost (n - 1) := by
  cases work with
  | done a => cases hresume
  | held c failure due cut next =>
    refine ⟨h.1, ?_⟩
    simp only [Active.resume?] at hresume
    split at hresume
    · obtain rfl := Option.some.inj hresume
      exact (h.2.1 _).advance _ _
    · split at hresume
      · split at hresume
        · obtain rfl := Option.some.inj hresume
          exact (h.2.2 _ _ rfl).advance _ _
        · cases hresume
      · cases hresume

/-- What the calls of a kind and the faults on them keep true of a scene is true of the ending of a
routine that makes only these. -/
theorem Routine.Makes.ending {kind : Call → Prop} {P : Scene → Prop} {r : Routine α}
    (hr : r.Makes kind) (htake : ∀ s c, kind c → P s → P (s.takeFault c.operation).2)
    (hfinish : ∀ s now c failure, kind c → P s → P (s.finish now c failure).2)
    (henter : ∀ s phase, P s → P (s.enter phase)) (now : Nat) (hs : P s) :
    P (r.ending now s).scene := by
  induction r generalizing now s with
  | done a => exact hs
  | enter phase next ih => exact ih hr _ (henter s phase hs)
  | call c next ih =>
    exact ih _ (hr.2 _) _ (hfinish _ _ c _ hr.1 (htake s c hr.1 hs))
  | within limit c next ih =>
    rw [Routine.ending]
    dsimp only
    split
    · exact ih _ (hr.2 _) _ (hfinish _ _ c _ hr.1 (htake s c hr.1 hs))
    · exact ih _ (hr.2 _) _ (htake s c hr.1 hs)

theorem Active.Makes.ending {kind : Call → Prop} {P : Scene → Prop} {work : Active α}
    (hwork : work.Makes kind) (htake : ∀ s c, kind c → P s → P (s.takeFault c.operation).2)
    (hfinish : ∀ s now c failure, kind c → P s → P (s.finish now c failure).2)
    (henter : ∀ s phase, P s → P (s.enter phase)) (now : Nat) (hs : P s) :
    P (work.ending now s).scene := by
  cases work with
  | done a => exact hs
  | held c failure due cut next =>
    have hfinished := (hwork.2.1 (s.finish due c failure).1).ending htake hfinish henter due
      (hfinish s due c failure hwork.1 hs)
    cases cut with
    | none => exact hfinished
    | some cut =>
      obtain ⟨limit, routine⟩ := cut
      rw [Active.ending]
      split
      · exact hfinished
      · exact (hwork.2.2 limit routine rfl).ending htake hfinish henter limit hs

/-- What is left of a routine makes only calls of the same kind. -/
theorem Routine.Makes.makes_advance {kind : Call → Prop} {r : Routine α} (hr : r.Makes kind)
    (now : Nat) (s : Scene) : (r.advance now s).1.Makes kind :=
  have hstable : Scene.Stable kind now fun _ => True :=
    ⟨fun _ _ _ => trivial, fun _ _ _ _ _ => trivial, fun _ _ _ => trivial⟩
  (hr.advance hstable trivial).1

theorem Active.Makes.makes_resume {kind : Call → Prop} {work : Active α} (hwork : work.Makes kind)
    {out : Active α × Scene} (hresume : work.resume? now s = some out) : out.1.Makes kind :=
  have hstable : Scene.Stable kind now fun _ => True :=
    ⟨fun _ _ _ => trivial, fun _ _ _ _ _ => trivial, fun _ _ _ => trivial⟩
  (hwork.resume hstable trivial hresume).1

/-! ### Calls that are not held up -/

/-- No fault that was laid holds up the calls of a kind. -/
def Scene.Prompt (s : Scene) (kind : Call → Prop) : Prop :=
  ∀ c, kind c → ∀ x ∈ s.faults, x.1 = c.operation → x.2.wait = 0

namespace Scene.Prompt

variable {kind : Call → Prop}

theorem of_sublist (h : s.Prompt kind) {t : Scene} (hsub : t.faults.Sublist s.faults) :
    t.Prompt kind :=
  fun c hc x hx => h c hc x (hsub.subset hx)

theorem wait_takeFault (h : s.Prompt kind) {c : Call} (hc : kind c) :
    (s.takeFault c.operation).1.wait = 0 := by
  rw [takeFault]
  split
  · rfl
  · next hfind =>
    have hop := List.find?_some hfind
    exact h c hc _ (List.mem_of_find?_eq_some hfind) (beq_iff_eq.mp hop)

theorem takeFault (h : s.Prompt kind) (op : Operation) : (s.takeFault op).2.Prompt kind := by
  obtain ⟨faults, hsub, heq⟩ := s.exists_takeFault_eq op
  exact h.of_sublist (heq ▸ hsub)

theorem finish (h : s.Prompt kind) (now : Nat) (c : Call) (failure : Option FaultKind) :
    (s.finish now c failure).2.Prompt kind :=
  h.of_sublist (s.faults_finish now c failure ▸ .refl _)

end Scene.Prompt

/-- A routine whose calls are not held up ends at once. -/
theorem Routine.advance_of_prompt {kind : Call → Prop} {r : Routine α} (hr : r.Makes kind)
    (hs : s.Prompt kind) (now : Nat) :
    r.advance now s = (.done (r.ending now s).value, (r.ending now s).scene) ∧
      (r.ending now s).time = now := by
  induction r generalizing s with
  | done a => exact ⟨rfl, rfl⟩
  | enter phase next ih => exact ih hr hs
  | call c next ih =>
    have hwait := hs.wait_takeFault hr.1
    rw [advance, ending]
    simp only [hwait, if_true, Nat.add_zero]
    exact ih _ (hr.2 _) ((hs.takeFault _).finish _ _ _)
  | within limit c next ih =>
    have hwait := hs.wait_takeFault hr.1
    rw [advance, ending]
    simp only [hwait, if_true, Nat.add_zero, Nat.zero_le]
    exact ih _ (hr.2 _) ((hs.takeFault _).finish _ _ _)

end Datebook
