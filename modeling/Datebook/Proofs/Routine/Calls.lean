import Datebook.Scheduler
import Datebook.Sender

/-!
# The calls of a routine, one at a time

A routine that is not alone proceeds call by call, and the states between its calls are not its
own. What can still be said of it is which calls it makes at all, whatever comes of them: a tick
scans, publishes and purges, and the handling of a delivery notes the event that it names and
acknowledges its tag. More can be said where it may rely on what others do in between.

## Main definitions

* `Datebook.Routine.proceed`, `Datebook.Routine.nextCall?`: the next call of a routine.
* `Datebook.Routine.Makes`: a routine makes only calls of a kind.
* `Datebook.Routine.Keeps`: a routine makes only calls that are guaranteed, as long as the others
  keep to what is relied on.

## Main results

* `Datebook.Routine.runWith_proceed`: proceeding does not change what a routine comes to.
* `Datebook.Routine.proceed_cases`, `Datebook.Routine.Makes.proceed`,
  `Datebook.Routine.Keeps.proceed`
* `Datebook.Scheduler.tick_makes`, `Datebook.Sender.handle_makes`
-/

namespace Datebook

namespace Routine

variable {α β σ : Type}

/-- Make the next call or enter the next phase: what is left of the routine, and the state. -/
def proceed (h : Handler σ) : Routine α → σ → Routine α × σ
  | .done a, s => (.done a, s)
  | .call c next, s => (next (h.answer c s).1, (h.answer c s).2)
  | .within _ c next, s => (next (some (h.answer c s).1), (h.answer c s).2)
  | .enter phase next, s => (next, h.enter phase s)

/-- A routine that is left to itself comes to the same after its next call as before. -/
theorem runWith_proceed (h : Handler σ) (r : Routine α) (s : σ) :
    (r.proceed h s).1.runWith h (r.proceed h s).2 = r.runWith h s := by
  cases r <;> rfl

/-- The call that a routine makes next, unless it ends or enters a phase. -/
def nextCall? : Routine α → Option Call
  | .call c _ | .within _ c _ => some c
  | .done _ | .enter _ _ => none

/-- The next call is answered; where there is none, at most a phase is entered. -/
theorem proceed_cases (h : Handler σ) (r : Routine α) (s : σ) :
    (∃ c, r.nextCall? = some c ∧ (r.proceed h s).2 = (h.answer c s).2) ∨
      r.nextCall? = none ∧
        ((r.proceed h s).2 = s ∨ ∃ phase, (r.proceed h s).2 = h.enter phase s) := by
  cases r with
  | done a => exact Or.inr ⟨rfl, Or.inl rfl⟩
  | call c next => exact Or.inl ⟨c, rfl, rfl⟩
  | within limit c next => exact Or.inl ⟨c, rfl, rfl⟩
  | enter phase next => exact Or.inr ⟨rfl, Or.inr ⟨phase, rfl⟩⟩

/-- Whatever comes of its calls, a routine makes only calls of a kind. -/
def Makes (kind : Call → Prop) : Routine α → Prop
  | .done _ => True
  | .call c next => kind c ∧ ∀ o, (next o).Makes kind
  | .within _ c next => kind c ∧ ∀ o, (next o).Makes kind
  | .enter _ next => next.Makes kind

namespace Makes

variable {kind : Call → Prop} {r : Routine α}

theorem bind (hr : r.Makes kind) {f : α → Routine β} (hf : ∀ a, (f a).Makes kind) :
    (r.bind f).Makes kind := by
  induction r with
  | done a => exact hf a
  | call c next ih => exact ⟨hr.1, fun o => ih o (hr.2 o)⟩
  | within limit c next ih => exact ⟨hr.1, fun o => ih o (hr.2 o)⟩
  | enter phase next ih => exact ih hr

theorem proceed (hr : r.Makes kind) (h : Handler σ) (s : σ) :
    (r.proceed h s).1.Makes kind := by
  cases r with
  | done a => exact hr
  | call c next => exact hr.2 _
  | within limit c next => exact hr.2 _
  | enter phase next => exact hr

/-- The next call is of the kind. -/
theorem of_nextCall? (hr : r.Makes kind) {c : Call} (hc : r.nextCall? = some c) : kind c := by
  cases r with
  | done | enter => simp [nextCall?] at hc
  | call c' next =>
    obtain rfl : c' = c := Option.some.inj hc
    exact hr.1
  | within limit c' next =>
    obtain rfl : c' = c := Option.some.inj hc
    exact hr.1

end Makes

/-! ### Among others -/

/-- As long as between its calls the others only do what is relied on, a routine makes only calls
that are guaranteed, each judged by the state in which it is made. -/
def Keeps (h : Handler σ) (rely : σ → σ → Prop) (guarantee : σ → Call → Prop) :
    Routine α → σ → Prop
  | .done _, _ => True
  | .call c next, s => ∀ t, rely s t →
      guarantee t c ∧ (next (h.answer c t).1).Keeps h rely guarantee (h.answer c t).2
  | .within _ c next, s => ∀ t, rely s t →
      guarantee t c ∧ (next (some (h.answer c t).1)).Keeps h rely guarantee (h.answer c t).2
  | .enter phase next, s => ∀ t, rely s t → next.Keeps h rely guarantee (h.enter phase t)

namespace Keeps

variable {h : Handler σ} {rely : σ → σ → Prop} {guarantee : σ → Call → Prop} {r : Routine α}
  {s t : σ}

/-- What the others do does not break the guarantee. -/
theorem of_rely (hr : r.Keeps h rely guarantee s) (hst : rely s t)
    (htrans : ∀ {a b c}, rely a b → rely b c → rely a c) : r.Keeps h rely guarantee t := by
  cases r with
  | done a => trivial
  | call c next => exact fun u hu => hr u (htrans hst hu)
  | within limit c next => exact fun u hu => hr u (htrans hst hu)
  | enter phase next => exact fun u hu => hr u (htrans hst hu)

theorem bind (hr : r.Keeps h rely guarantee s) {f : α → Routine β}
    (hf : ∀ a s, (f a).Keeps h rely guarantee s) : (r.bind f).Keeps h rely guarantee s := by
  induction r generalizing s with
  | done a => exact hf a s
  | call c next ih => exact fun t ht => ⟨(hr t ht).1, ih _ (hr t ht).2⟩
  | within limit c next ih => exact fun t ht => ⟨(hr t ht).1, ih _ (hr t ht).2⟩
  | enter phase next ih => exact fun t ht => ih (hr t ht)

theorem proceed (hr : r.Keeps h rely guarantee s) (hst : rely s t) :
    (r.proceed h t).1.Keeps h rely guarantee (r.proceed h t).2 := by
  cases r with
  | done a => trivial
  | call c next => exact (hr t hst).2
  | within limit c next => exact (hr t hst).2
  | enter phase next => exact hr t hst

/-- The next call is guaranteed. -/
theorem of_nextCall? (hr : r.Keeps h rely guarantee s) (hst : rely s t) {c : Call}
    (hc : r.nextCall? = some c) : guarantee t c := by
  cases r with
  | done | enter => simp [nextCall?] at hc
  | call c' next =>
    obtain rfl : c' = c := Option.some.inj hc
    exact (hr t hst).1
  | within limit c' next =>
    obtain rfl : c' = c := Option.some.inj hc
    exact (hr t hst).1

end Keeps

end Routine

namespace Scheduler

/-- The calls of a tick. -/
inductive TickCall : Call → Prop
  | due (now : Instant) : TickCall (.store (.due now))
  | publish (k : Nat) (r : Reminder) : TickCall (.channel (.publish k r))
  | purge (cutoff : Instant) : TickCall (.store (.purge cutoff))

theorem publishAll_makes (k : Nat) (events : List Event) :
    (publishAll k events).Makes TickCall := by
  induction events with
  | nil => trivial
  | cons e events ih =>
    refine ⟨.publish k _, ?_⟩
    rintro (source | ⟨⟩)
    · trivial
    · exact ih

/-- A tick scans, publishes and purges. -/
theorem tick_makes (k : Nat) (retention : Retention) (now : Instant) :
    (tick k retention now).Makes TickCall := by
  have hcycle : (cycle k retention now).Makes TickCall := by
    refine ⟨.due now, ?_⟩
    rintro (source | due)
    · trivial
    · refine (publishAll_makes k due).bind ?_
      rintro (source | ⟨⟩)
      · trivial
      · exact ⟨.purge _, fun _ => trivial⟩
  exact hcycle.bind fun _ => trivial

end Scheduler

namespace Sender

/-- The calls of the handling of a delivery. -/
inductive HandlingCall (d : Delivery) : Call → Prop
  | mark : HandlingCall d (.store (.markNotified d.reminder.id))
  | ack (k : Nat) : HandlingCall d (.channel (.ack k d.tag))

/-- The handling of a delivery notes the event that it names and acknowledges its tag. -/
theorem handle_makes (mode : AckMode) (k : Nat) (d : Delivery) :
    (handle mode k d).Makes (HandlingCall d) := by
  have hsettle (handled : Handled) : (settle mode k d.tag handled).Makes (HandlingCall d) := by
    cases mode with
    | auto => trivial
    | manual =>
      refine ⟨.ack k, ?_⟩
      rintro (source | ⟨⟩) <;> trivial
  refine ⟨.mark, fun outcome => ?_⟩
  dsimp only
  split
  · exact hsettle _
  · trivial

end Sender

end Datebook
