import Datebook.Proofs.Scheduler.Vigil
import Datebook.Proofs.Sender.Vigil

/-!
# Who stops on the flag

The loop of the scheduler, the loop of the sender and whoever waits for the request to stop listen
to the same flag. The scheduler and who waits for the request stop exactly when somebody asks to:
when the flag is set at the start or by a write, or its writing side is dropped. The sender stops on
any news, a write that does not set the flag included, and so may stop when nobody has asked to.

## Main results

* `Datebook.Pipeline.listeners_stop`: on what each of the listeners stops.
* `Datebook.Pipeline.sender_stops_unasked`
-/

namespace Datebook

/-- News that is no request is a write that does not set the flag. -/
theorem Flag.disturbed_iff_requested_or {initial : Bool} {history : List Change} :
    Disturbed initial history ↔ Requested initial history ∨ .write false ∈ history := by
  rw [Disturbed, Requested, Bool.exists_bool]
  tauto

namespace Pipeline

open Datebook.Flag (Requested Disturbed)

/-- **On what each listener stops.** Let the flag be written and dropped in any history of changes,
each of which a listener has observed before the next, whether the flag is set at the start or not,
and let others do anything else meanwhile, short of closing the consumer of the sender.

* The loop of the scheduler stops on a request: it stops only after a history in which somebody asks
  to stop, has stopped after each such history that it has observed, and left to itself comes to its
  end after it.
* Whoever waits for the request waits no longer exactly after such a history.
* The loop of the sender stops in the same way on any news of the flag, which is a request or a
  write that does not set the flag. -/
theorem listeners_stop (pulse : Scheduler.LoopSettings) (hperiod : pulse.period ≠ 0)
    (settings : Sender.LoopSettings) (service : Service)
    (hopen : service.consumer settings.consumer = .connected) (initial : Bool) (now : Nat) :
    (Scheduler.listener pulse).StopsOn (Scheduler.watching pulse now service initial)
        (Requested initial) ∧
      (∀ history, (Flag.watch false { value := initial } (.nothing :: history)).getLast? =
        some (decide (Requested initial history))) ∧
      (Sender.listener settings).StopsOn (Sender.watching now service initial)
        (Disturbed initial) ∧
      ∀ history, Disturbed initial history ↔ Requested initial history ∨ .write false ∈ history :=
  ⟨Scheduler.listener_stopsOn_requested pulse hperiod initial now service,
    Flag.getLast?_watch initial,
    Sender.listener_stopsOn_disturbed settings initial now hopen,
    fun _ => Flag.disturbed_iff_requested_or⟩

/-- An empty service with a consumer that is connected. -/
def idle : Service where
  consumers := [.connected]

/-- A scheduler that ticks every minute. -/
def minutely : Scheduler.LoopSettings where
  today := .epoch

/-- The flag is written without being set, while the listener waits. -/
def unasked : List Vigil.Act :=
  [.step, .flag (.write false), .step, .step, .step, .step, .step]

/-- The scheduler goes on, and the sender has come to its end. -/
theorem unasked_listeners :
    minutely.period ≠ 0 ∧ idle.consumer 0 = .connected ∧
      let x := (Scheduler.watching minutely 0 idle false).run (Scheduler.listener minutely) unasked
      let y := (Sender.watching 0 idle false).run (Sender.listener {}) unasked
      (x.history = [.write false] ∧ x.loop.stage.isStopped = false ∧ ¬ Requested false x.history) ∧
        y.history = [.write false] ∧ y.loop.stage.isEnded = true ∧ Disturbed false y.history := by
  have hperiod : minutely.period ≠ 0 := by decide
  have hopen : idle.consumer 0 = .connected := by decide
  refine ⟨hperiod, hopen, ?_⟩
  intro x y
  obtain ⟨hscheduler, -, hsender, -⟩ := listeners_stop minutely hperiod {} idle hopen false 0
  have hx : x.history = [.write false] ∧ x.loop.stage.isStopped = false ∧
      x.Observed (Scheduler.listener minutely) := by
    decide +kernel
  have hy : y.history = [.write false] ∧ y.loop.stage.isEnded = true := by
    decide +kernel
  refine ⟨⟨hx.1, hx.2.1, fun hasked => ?_⟩, hy.1, hy.2, ?_⟩
  · exact Bool.eq_false_iff.mp hx.2.1 (((hscheduler unasked).2.1 hx.2.2).mpr hasked)
  · exact (hsender unasked).1 ((Sender.listener {}).stopped_of_ended hy.2)

/-- The sender does not stop on requests only: it ends after a write that does not set the flag. -/
theorem sender_stops_unasked :
    idle.consumer 0 = .connected ∧
      ¬ (Sender.listener {}).StopsOn (Sender.watching 0 idle false) (Requested false) := by
  refine ⟨by decide, fun h => ?_⟩
  have hended : (Sender.listener {}).stopped
      ((Sender.watching 0 idle false).run (Sender.listener {}) unasked).loop = true := by
    decide +kernel
  have hasked := (h unasked).1 hended
  revert hasked
  decide +kernel

end Pipeline

end Datebook
