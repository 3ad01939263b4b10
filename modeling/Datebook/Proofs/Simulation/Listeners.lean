import Datebook.Proofs.Simulation.Advance
import Mathlib.Data.List.Induction
import Mathlib.Tactic.Tauto

/-!
# Listeners of the flag

Loops that run until they are asked to stop listen to a flag. The flag is written and its writing
side is dropped in a history of changes, each of which the listener has observed before the next
comes: it has stopped, or waits and has seen what became of the flag. In between it takes its steps,
others do what they may, and time passes.

A listener stops on a condition if it stops only on it, has stopped whenever it has observed a
history that meets it, and, left to itself, observes every history and comes to an end after those.

## Main definitions

* `Datebook.Flag.Requested`: the histories in which somebody asks to stop.
* `Datebook.Flag.Disturbed`: the histories in which there is any news.
* `Datebook.Listener`, `Datebook.Vigil`, `Datebook.Vigil.run`
* `Datebook.Listener.StopsOn`

## Main results

* `Datebook.Flag.getLast?_watch`: who looks at the flag after every change.
* `Datebook.Listener.stopsOn_of_invariant`
-/

namespace Datebook

namespace Flag

/-! ### Histories of a flag -/

/-- The flag after changes. -/
def after (f : Flag) (history : List Change) : Flag :=
  history.foldl apply f

/-- Somebody asks to stop: the flag is set at the start or by a write, or its writing side is
dropped. -/
def Requested (initial : Bool) (history : List Change) : Prop :=
  initial = true ∨ .write true ∈ history ∨ .drop ∈ history

instance (initial : Bool) (history : List Change) : Decidable (Requested initial history) :=
  inferInstanceAs (Decidable (_ ∨ _))

/-- The flag is set at the start, or written in any way, or its writing side is dropped. -/
def Disturbed (initial : Bool) (history : List Change) : Prop :=
  initial = true ∨ (∃ value, .write value ∈ history) ∨ .drop ∈ history

variable {initial : Bool} {history : List Change} {change : Change} {f : Flag}

theorem after_concat (f : Flag) (history : List Change) (change : Change) :
    f.after (history ++ [change]) = (f.after history).apply change := by
  rw [after, List.foldl_append]
  rfl

theorem requested_concat :
    Requested initial (history ++ [change]) ↔
      Requested initial history ∨ change = .write true ∨ change = .drop := by
  simp only [Requested, List.mem_append, List.mem_singleton, eq_comm (b := change)]
  tauto

/-- A request can be seen at once. -/
theorem asksToStop_apply (h : change = .write true ∨ change = .drop) :
    (f.apply change).asksToStop = true := by
  rcases h with rfl | rfl
  · rw [apply, write]
    split
    · next hdropped => rw [asksToStop, hdropped, Bool.or_true]
    · rfl
  · exact Bool.or_true _

/-- What can be seen is a request. -/
theorem requested_of_asksToStop
    (h : (({ value := initial } : Flag).after history).asksToStop = true) :
    Requested initial history := by
  induction history using List.reverseRecOn with
  | nil =>
    refine Or.inl ?_
    rwa [after, List.foldl_nil, asksToStop, Bool.or_false] at h
  | append_singleton history change ih =>
    rw [after_concat] at h
    rw [requested_concat]
    cases change with
    | nothing => exact Or.inl (ih h)
    | drop => exact Or.inr (Or.inr rfl)
    | write value =>
      cases value with
      | true => exact Or.inr (Or.inl rfl)
      | false =>
        refine Or.inl (ih ?_)
        rw [apply, write] at h
        split at h
        · exact h
        · next hdropped =>
          rw [asksToStop, Bool.or_eq_true] at h
          exact absurd h (by simp [hdropped])

/-- A request that came last can be seen, and so can one that is seen. -/
theorem requested_concat_iff :
    Requested initial (history ++ [change]) ↔
      Requested initial history ∨
        (({ value := initial } : Flag).after (history ++ [change])).asksToStop = true := by
  constructor
  · intro h
    refine (requested_concat.mp h).imp_right fun hchange => ?_
    rw [after_concat]
    exact asksToStop_apply hchange
  · rintro (h | h)
    · exact requested_concat.mpr (Or.inl h)
    · exact requested_of_asksToStop h

/-- One more look at the flag. -/
theorem watch_concat (stopped : Bool) (f : Flag) (history : List Change) (change : Change) :
    watch stopped f (history ++ [change]) =
      watch stopped f history ++
        [(watch stopped f history).getLast?.getD stopped ||
          (f.after (history ++ [change])).asksToStop] := by
  induction history generalizing stopped f with
  | nil => rfl
  | cons first history ih =>
    rw [List.cons_append, watch, watch, ih, List.getLast?_cons, Option.getD_some]
    rfl

/-- Whoever looks at the flag at the start and after every change has stopped waiting exactly after
the histories in which somebody asks to stop. -/
theorem getLast?_watch (initial : Bool) (history : List Change) :
    (watch false { value := initial } (.nothing :: history)).getLast? =
      some (decide (Requested initial history)) := by
  induction history using List.reverseRecOn with
  | nil => cases initial <;> rfl
  | append_singleton history change ih =>
    have hafter : ({ value := initial } : Flag).after (.nothing :: history ++ [change]) =
        ({ value := initial } : Flag).after (history ++ [change]) := rfl
    rw [← List.cons_append, watch_concat, List.getLast?_concat, ih, Option.getD_some, hafter,
      Option.some.injEq, Bool.eq_iff_iff, Bool.or_eq_true, decide_eq_true_eq, decide_eq_true_eq,
      requested_concat_iff]

theorem disturbed_concat :
    Disturbed initial (history ++ [change]) ↔ Disturbed initial history ∨ change ≠ .nothing := by
  simp only [Disturbed, List.mem_append, List.mem_singleton]
  cases change with
  | nothing => simp
  | drop => simp
  | write value => simp

/-- Whatever happens to the flag is news. -/
theorem disturbed_iff :
    Disturbed initial history ↔ initial = true ∨
      (({ value := initial } : Flag).after history).writes ≠ 0 ∨
        (({ value := initial } : Flag).after history).dropped = true := by
  induction history using List.reverseRecOn with
  | nil => simp [Disturbed, after]
  | append_singleton history change ih =>
    rw [disturbed_concat, ih, after_concat]
    cases change with
    | nothing => simp [apply]
    | drop => simp [apply, drop]
    | write value =>
      rw [apply, write]
      split
      · next hdropped => simp [hdropped]
      · simp

end Flag

/-! ### Listeners -/

/-- Someone who listens to the flag. Others may change a scene only in ways that it allows, and
nobody but who writes the flag changes the flag. -/
structure Listener (L : Type) where
  /-- The step that it takes now, where there is one. -/
  step? : Nat → L → Scene → Option (L × Scene)
  /-- What it may do instead where it waits for several things at once. -/
  race? : Nat → L → Scene → Option (L × Scene)
  /-- What others may make of a scene. -/
  allows : L → Scene → Scene → Bool
  /-- It goes on no longer. -/
  stopped : L → Bool
  /-- It has come to its end. -/
  ended : L → Bool
  /-- It waits, and there is no news of the flag. -/
  waits : L → Scene → Bool
  flag_step? : ∀ {now loop s out}, step? now loop s = some out → out.2.flag = s.flag
  flag_race? : ∀ {now loop s out}, race? now loop s = some out → out.2.flag = s.flag
  flag_allows : ∀ {loop s t}, allows loop s t = true → t.flag = s.flag
  stopped_of_ended : ∀ {loop}, ended loop = true → stopped loop = true

/-- A listener at a scene, and what has happened to the flag. -/
structure Vigil (L : Type) where
  now : Nat := 0
  scene : Scene
  loop : L
  history : List Flag.Change := []

namespace Vigil

variable {L : Type}

/-- What may happen during a vigil. -/
inductive Act where
  | step
  | race
  /-- Others make something else of the scene. -/
  | others (scene : Scene)
  | flag (change : Flag.Change)
  | wait (millis : Nat)

/-- The listener alone acts, or nobody. -/
def Act.IsOwn : Act → Prop
  | .step | .wait _ => True
  | .race | .others _ | .flag _ => False

/-- The listener has stopped, or waits and has observed what happened to the flag. -/
def Observed (l : Listener L) (x : Vigil L) : Prop :=
  l.stopped x.loop = true ∨ l.waits x.loop x.scene = true

instance (l : Listener L) (x : Vigil L) : Decidable (x.Observed l) :=
  inferInstanceAs (Decidable (_ ∨ _))

/-- The listener has moved on, if it could. -/
def moved (x : Vigil L) : Option (L × Scene) → Vigil L
  | some out => { x with loop := out.1, scene := out.2 }
  | none => x

/-- The vigil after an act. Nothing happens to the flag before the listener has observed what
happened last. -/
def after (l : Listener L) (x : Vigil L) : Act → Vigil L
  | .step => x.moved (l.step? x.now x.loop x.scene)
  | .race => x.moved (l.race? x.now x.loop x.scene)
  | .others scene => if l.allows x.loop x.scene scene then { x with scene } else x
  | .flag change =>
    if x.Observed l then
      { x with
        scene := { x.scene with flag := x.scene.flag.apply change }
        history := x.history ++ [change] }
    else x
  | .wait millis => { x with now := x.now + millis }

/-- The vigil after a list of acts. -/
def run (l : Listener L) (x : Vigil L) : List Act → Vigil L
  | [] => x
  | act :: acts => (x.after l act).run l acts

/-- The listener has come to its end, or goes on and waits. -/
def Rests (l : Listener L) (x : Vigil L) : Prop :=
  l.ended x.loop = true ∨ l.waits x.loop x.scene = true ∧ l.stopped x.loop = false

/-- Left to itself for some time, the listener comes to this. -/
def Comes (l : Listener L) (x y : Vigil L) : Prop :=
  ∃ own : List Act, (∀ act ∈ own, act.IsOwn) ∧ x.run l own = y

variable {l : Listener L} {x y z : Vigil L}

theorem run_append (x : Vigil L) (acts more : List Act) :
    x.run l (acts ++ more) = (x.run l acts).run l more := by
  induction acts generalizing x with
  | nil => rfl
  | cons act acts ih => exact ih (x.after l act)

/-- What no act changes holds throughout. -/
theorem run_invariant {P : Vigil L → Prop} (hafter : ∀ x act, P x → P (x.after l act)) (hx : P x)
    (acts : List Act) : P (x.run l acts) := by
  induction acts generalizing x with
  | nil => exact hx
  | cons act acts ih => exact ih (hafter x act hx)

theorem Comes.refl (x : Vigil L) : x.Comes l x :=
  ⟨[], nofun, rfl⟩

theorem Comes.trans (hxy : x.Comes l y) (hyz : y.Comes l z) : x.Comes l z := by
  obtain ⟨first, hfirst, rfl⟩ := hxy
  obtain ⟨rest, hrest, rfl⟩ := hyz
  exact ⟨first ++ rest, List.forall_mem_append.mpr ⟨hfirst, hrest⟩, x.run_append first rest⟩

theorem comes_wait (x : Vigil L) (millis : Nat) :
    x.Comes l { x with now := x.now + millis } :=
  ⟨[.wait millis], List.forall_mem_singleton.mpr trivial, rfl⟩

theorem comes_step (x : Vigil L) {out : L × Scene}
    (h : l.step? x.now x.loop x.scene = some out) :
    x.Comes l { x with loop := out.1, scene := out.2 } := by
  refine ⟨[.step], List.forall_mem_singleton.mpr trivial, ?_⟩
  rw [run, run, after, h]
  rfl

/-- While a listener works on a routine, it goes on with it until that has come to its end, and then
with what follows. -/
theorem exists_comes_of_work {α : Type} (stage : Active α → L) (next : α → L)
    (history : List Flag.Change)
    (hresume : ∀ {work now s out}, work.resume? now s = some out →
      l.step? now (stage work) s = some (stage out.1, out.2))
    (hdone : ∀ now a s, l.step? now (stage (.done a)) s = some (next a, s))
    (now : Nat) (work : Active α) (s : Scene) :
    ∃ last a t, work.Finishes now s last a t ∧
      Comes l ⟨now, s, stage work, history⟩ ⟨last, t, next a, history⟩ := by
  obtain ⟨last, a, t, hfinishes⟩ := work.exists_finishes now s
  refine ⟨last, a, t, hfinishes, ?_⟩
  induction hfinishes with
  | done now a s => exact comes_step ⟨now, s, stage (.done a), history⟩ (hdone now a s)
  | @resume now time last work work' s s' t a hle hstep hrest ih =>
    have hwait := comes_wait (l := l) ⟨now, s, stage work, history⟩ (time - now)
    have hmove := comes_step (l := l) ⟨time, s, stage work, history⟩ (hresume hstep)
    rw [Nat.add_sub_of_le hle] at hwait
    exact hwait.trans (hmove.trans ih)

theorem Comes.invariant {P : Vigil L → Prop} (hafter : ∀ x act, P x → P (x.after l act))
    (hx : P x) (h : x.Comes l y) : P y := by
  obtain ⟨own, -, rfl⟩ := h
  exact run_invariant hafter hx own

/-- A listener that is left to itself hears nothing new. -/
theorem Comes.history_eq (h : x.Comes l y) : y.history = x.history := by
  obtain ⟨own, hown, rfl⟩ := h
  induction own generalizing x with
  | nil => rfl
  | cons act own ih =>
    rw [List.forall_mem_cons] at hown
    refine (ih hown.2).trans ?_
    cases act with
    | race | others | flag => exact hown.1.elim
    | wait millis => rfl
    | step =>
      rw [after]
      cases l.step? x.now x.loop x.scene <;> rfl

/-- Nothing happens to the flag but what is in the history. -/
theorem flag_after {f : Flag} (h : x.scene.flag = f.after x.history) (act : Act) :
    (x.after l act).scene.flag = f.after (x.after l act).history := by
  cases act with
  | wait millis => exact h
  | step =>
    rw [after]
    cases hstep : l.step? x.now x.loop x.scene with
    | none => exact h
    | some out => exact (l.flag_step? hstep).trans h
  | race =>
    rw [after]
    cases hrace : l.race? x.now x.loop x.scene with
    | none => exact h
    | some out => exact (l.flag_race? hrace).trans h
  | others scene =>
    rw [after]
    split
    · next hallows => exact (l.flag_allows hallows).trans h
    · exact h
  | flag change =>
    rw [after]
    split
    · dsimp only
      rw [Flag.after_concat, h]
    · exact h

end Vigil

namespace Listener

variable {L : Type}

/-- In every run from the start the listener stops only after a history that meets the condition; it
has stopped after each such history that it has observed; and left to itself it observes every
history, and comes to its end if the history meets the condition. -/
def StopsOn (l : Listener L) (start : Vigil L) (asked : List Flag.Change → Prop) : Prop :=
  ∀ acts, let x := start.run l acts
    (l.stopped x.loop = true → asked x.history) ∧
      (x.Observed l → (l.stopped x.loop = true ↔ asked x.history)) ∧
      ∃ y, x.Comes l y ∧ y.history = x.history ∧ y.Observed l ∧
        (asked x.history → l.ended y.loop = true)

/-- A listener stops on a condition if something is true of all its vigils by which it stops only on
the condition, waits only where the history does not meet it, and gets to its end or to wait. -/
theorem stopsOn_of_invariant {l : Listener L} {start : Vigil L} {asked : List Flag.Change → Prop}
    {P : Vigil L → Prop} (hstart : P start) (hafter : ∀ x act, P x → P (x.after l act))
    (hsafe : ∀ x, P x → l.stopped x.loop = true → asked x.history)
    (hwaits : ∀ x, P x → l.waits x.loop x.scene = true → l.stopped x.loop = false →
      ¬ asked x.history)
    (hcomes : ∀ x, P x → ∃ y, x.Comes l y ∧ y.Rests l) : l.StopsOn start asked := by
  intro acts x
  have hx : P x := Vigil.run_invariant hafter hstart acts
  refine ⟨hsafe x hx, fun hobserved => ⟨hsafe x hx, fun hasked => ?_⟩, ?_⟩
  · rcases hobserved with hstopped | hwait
    · exact hstopped
    · by_contra hstopped
      exact hwaits x hx hwait (Bool.eq_false_iff.mpr hstopped) hasked
  · obtain ⟨y, hy, hend⟩ := hcomes x hx
    have hhistory := hy.history_eq
    rcases hend with hended | ⟨hwait, hstopped⟩
    · exact ⟨y, hy, hhistory, Or.inl (l.stopped_of_ended hended), fun _ => hended⟩
    · refine ⟨y, hy, hhistory, Or.inr hwait, fun hasked => ?_⟩
      exact absurd (hhistory ▸ hasked) (hwaits y (hy.invariant hafter hx) hwait hstopped)

end Listener

end Datebook
