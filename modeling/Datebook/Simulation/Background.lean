import Datebook.Scheduler.Loop
import Datebook.Sender.Loop

/-!
# Work in the background

Receivers and loops go on in the background of a scene. Whoever was called from the line
goes on first, in the order of the calls, then whoever else can, in the order of starting;
each goes on until it has to wait. When all wait, time passes to the next moment at which
one of them has to be seen to.

## Main definitions

* `Datebook.Task`, `Datebook.Task.step?`
* `Datebook.Background`, `Datebook.Background.settle`: until all wait
* `Datebook.Background.elapse`: until a time
-/

namespace Datebook

/-- What the tasks of a background work with. -/
structure TaskSettings where
  scheduler : Scheduler.LoopSettings
  sender : Sender.LoopSettings

/-- A receiver or a loop in the background. -/
inductive Task where
  | receiver (number consumer : Nat) (receive : Receive)
  | scheduler (loop : Scheduler.Loop)
  | sender (loop : Sender.Loop)

namespace Task

/-- One step of a task, where there is one to be taken now. -/
def step? (settings : TaskSettings) (now : Nat) : Task → Scene → Option (Task × Scene)
  | .receiver number consumer receive, s =>
    (receive.poll? now consumer s).map fun (receive, s) => (.receiver number consumer receive, s)
  | .scheduler loop, s =>
    (loop.step? settings.scheduler now s).map fun (loop, s) => (.scheduler loop, s)
  | .sender loop, s => (loop.step? settings.sender now s).map fun (loop, s) => (.sender loop, s)

/-- When a task has to be seen to. -/
def wake? : Task → Option Nat
  | .receiver _ _ receive => receive.wake?
  | .scheduler loop => loop.wake?
  | .sender loop => loop.wake?

/-- The task waits in line with the ticket. -/
def holds (ticket : Nat) : Task → Bool
  | .receiver _ _ receive => receive.holds ticket
  | .scheduler _ => false
  | .sender loop => loop.holds ticket

/-- The task is over. -/
def isOver : Task → Bool
  | .receiver _ _ (.done _) => true
  | .scheduler ⟨.ended _, _⟩ => true
  | .sender ⟨.ended _, _⟩ => true
  | _ => false

end Task

/-- A scene with the tasks in its background, in the order of starting. -/
structure Background where
  scene : Scene := {}
  tasks : List Task := []

namespace Background

/-- One step of the task at a place, where there is one to be taken now. -/
def stepAt? (settings : TaskSettings) (now : Nat) (b : Background) (i : Nat) :
    Option Background := do
  let task ← b.tasks[i]?
  let (task, scene) ← task.step? settings now b.scene
  some { scene, tasks := b.tasks.set i task }

/-- The place of the task that goes on next. -/
def next? (settings : TaskSettings) (now : Nat) (b : Background) : Option Nat :=
  (b.scene.line.called.findSome? fun ticket => b.tasks.findIdx? (·.holds ticket)).or
    (b.tasks.findIdx? fun task => (task.step? settings now b.scene).isSome)

/-- Go on, with the current task first, for at most so many steps. -/
def settleFrom (settings : TaskSettings) (now : Nat) :
    (steps : Nat) → (current : Nat) → Background → Background
  | 0, _, b => b
  | steps + 1, current, b =>
    match b.stepAt? settings now current with
    | some b => settleFrom settings now steps current b
    | none =>
      match b.next? settings now with
      | none => b
      | some i =>
        match b.stepAt? settings now i with
        | some b => settleFrom settings now steps i b
        | none => b

/-- The most messages that can be delivered before time passes: those that are ready, and
one for every event with each tick. A loop of the scheduler takes at most seven ticks at one
time, because it counts periods anew after a tick that began more than five milliseconds
late. -/
def deliverable (b : Background) : Nat :=
  b.scene.service.queue.ready.length + 7 * (b.tasks.length * b.scene.service.store.events.length)

/-- More steps than are needed until all tasks wait: a message takes a loop four, a loop
takes no more than twenty besides, and every handle that is closed calls all others once. -/
def enoughSteps (b : Background) : Nat :=
  8 * (b.deliverable + (b.tasks.length + 1) * (b.tasks.length + 4))

/-- Go on until all tasks wait. -/
def settle (settings : TaskSettings) (now : Nat) (b : Background) : Background :=
  settleFrom settings now b.enoughSteps b.tasks.length b

/-- The next time after now at which a task has to be seen to. -/
def nextWake? (now : Nat) (b : Background) : Option Nat :=
  ((b.tasks.filterMap Task.wake?).filter (now < ·)).min?

/-- Let time pass until the target. -/
def elapse (settings : TaskSettings) (now target : Nat) (b : Background) : Background :=
  let b := b.settle settings now
  match b.nextWake? now with
  | none => b
  | some wake => if now < wake ∧ wake ≤ target then b.elapse settings wake target else b
termination_by target - now

/-- The tasks that are over, and the background without them. -/
def harvest (b : Background) : List Task × Background :=
  let (finished, tasks) := b.tasks.partition (·.isOver)
  (finished, { b with tasks })

end Background

end Datebook
