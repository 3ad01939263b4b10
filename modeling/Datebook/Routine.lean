import Datebook.Duration
import Datebook.Service

/-!
# Routines

A routine is a program that works by calls: it ends with a value, or makes a call and goes
on as the outcome says. A call may be made within a time limit, and the routine then also
says how it goes on if the limit strikes first. A routine of the scheduler also says which
phase it enters.

How calls are answered is left open. Where the service answers each at once, no limit ever
strikes (`Datebook.Routine.run`); elsewhere a call may take time or fail.

## Main definitions

* `Datebook.Routine`, `Datebook.Routine.bind`
* `Datebook.Handler`, `Datebook.Routine.runWith`: running on any kind of answers
* `Datebook.Routine.run`: running on a service
-/

namespace Datebook

/-- A program that works by calls and ends with a value. -/
inductive Routine (α : Type) : Type where
  | done (a : α)
  | call (c : Call) (next : c.Outcome → Routine α)
  /-- A call that is abandoned, with outcome `none`, when it takes longer than the limit. -/
  | within (limit : Duration) (c : Call) (next : Option c.Outcome → Routine α)
  /-- The scheduler enters a phase. -/
  | enter (phase : SchedulerPhase) (next : Routine α)

namespace Routine

/-- Go on with the value of a routine. -/
protected def bind {α β : Type} : Routine α → (α → Routine β) → Routine β
  | .done a, f => f a
  | .call c next, f => .call c fun o => (next o).bind f
  | .within limit c next, f => .within limit c fun o => (next o).bind f
  | .enter phase next, f => .enter phase (next.bind f)

instance : Monad Routine where
  pure := .done
  bind := Routine.bind

/-- The routine of a single call. -/
def perform (c : Call) : Routine c.Outcome :=
  .call c .done

/-- The routine of a single call within a time limit. -/
def performWithin (limit : Duration) (c : Call) : Routine (Option c.Outcome) :=
  .within limit c .done

end Routine

/-- A way to answer calls, on states of some type. -/
structure Handler (σ : Type) where
  answer : (c : Call) → σ → c.Outcome × σ
  enter : SchedulerPhase → σ → σ

namespace Routine

/-- The value of a routine whose calls are answered by a handler, and the state after it. -/
def runWith {σ α : Type} (h : Handler σ) : Routine α → σ → α × σ
  | .done a, s => (a, s)
  | .call c next, s => (next (h.answer c s).1).runWith h (h.answer c s).2
  | .within _ c next, s => (next (some (h.answer c s).1)).runWith h (h.answer c s).2
  | .enter phase next, s => next.runWith h (h.enter phase s)

/-- Running one routine after the other. -/
theorem runWith_bind {σ α β : Type} (h : Handler σ) (r : Routine α) (f : α → Routine β)
    (s : σ) :
    (r.bind f).runWith h s = (f (r.runWith h s).1).runWith h (r.runWith h s).2 := by
  induction r generalizing s with
  | done a => rfl
  | call c next ih => exact ih _ _
  | within limit c next ih => exact ih _ _
  | enter phase next ih => exact ih _

end Routine

/-- The service answers calls at once. -/
def Service.handler : Handler Service where
  answer c s := s.answer c
  enter phase s := { s with phase }

/-- The value of a routine on a service, and the service after it. -/
def Routine.run {α : Type} (r : Routine α) (s : Service) : α × Service :=
  r.runWith Service.handler s

end Datebook
