import Datebook.Proofs.Pipeline.MovedReminder

/-!
# What ticks publish and handlings come to

A tick that is not alone publishes what it has found in the store, which may be gone by then. It
relies on the others only to leave the store sound and to take back no id; in return it publishes
only for ids that were given out, and purges only what ended before its own cutoff. Whatever is
done in a pipeline in whatever order, every message and every delivery therefore names an event that
was inserted.

The handling of a delivery has two calls at most: it notes the delivery, which tells whether there
is an event, and settles it.

## Main definitions

* `Datebook.Chronicle.Later`: what ticks rely on.
* `Datebook.Scheduler.TickDuty`: what a tick may publish and purge.
* `Datebook.Pipeline.Handling.Stage`: how far a handling has come.
* `Datebook.Pipeline.call?`: the call that an act makes.
* `Datebook.Pipeline.Dutiful`: the invariant.

## Main results

* `Datebook.Scheduler.tick_keeps`
* `Datebook.Pipeline.chronicle_step_cases`: what an act does to the chronicle.
* `Datebook.Pipeline.Dutiful.step`, `Datebook.Pipeline.dutiful_run`
-/

namespace Datebook

/-! ### Later chronicles -/

namespace Chronicle

/-- The store of the later chronicle is sound, and its ids go on from those of the earlier one. -/
structure Later (x y : Chronicle) : Prop where
  sound : y.service.store.Sound
  lastId_le : x.service.store.lastId ≤ y.service.store.lastId

variable {x y z : Chronicle}

theorem Later.trans (hxy : x.Later y) (hyz : y.Later z) : x.Later z :=
  ⟨hyz.sound, Int.le_trans hxy.lastId_le hyz.lastId_le⟩

theorem Later.refl (hs : x.service.store.Sound) : x.Later x :=
  ⟨hs, Int.le_refl _⟩

/-- What was given out once counts as given out later. -/
theorem Later.hasIssued (h : x.Later y) {id : Int} (hid : x.service.store.HasIssued id) :
    y.service.store.HasIssued id :=
  ⟨hid.1, Int.le_trans hid.2 h.lastId_le⟩

/-- A call on a handle leaves the store as it was. -/
theorem store_answer_channel (x : Chronicle) (c : ChannelCall) :
    (x.answer (.channel c)).2.service.store = x.service.store := by
  rcases x.answer_channel_cases c with ⟨r, hanswer⟩ | ⟨hstore, -⟩
  · rw [hanswer]
  · exact hstore

/-- Every call leads to a later chronicle. -/
theorem later_answer (hs : x.service.store.Sound) (c : Call) : x.Later (x.answer c).2 := by
  refine ⟨sound_answer hs c, ?_⟩
  cases c with
  | store c => exact x.service.store.lastId_le_answer c
  | channel c =>
    exact Int.le_of_eq (congrArg EventStore.lastId (x.store_answer_channel c).symm)

/-- Only publishing enters a message in the log. -/
theorem published_of_answer {c : Call} {tag id : Int} {now : Instant}
    (h : .published tag id now ∈ (x.answer c).2.log) :
    .published tag id now ∈ x.log ∨ ∃ k r, c = .channel (.publish k r) ∧ r.id = id := by
  rcases List.mem_append.mp h with h | h
  · have hlogged : x.logged? c = some (.published tag id now) := Option.mem_toList.mp h
    refine Or.inr ?_
    -- Insertions and changes enter that a reminder was set, and other calls enter nothing.
    unfold logged? at hlogged
    split at hlogged
    · split at hlogged <;> simp at hlogged
    · split at hlogged
      · split at hlogged <;> simp at hlogged
      · simp at hlogged
    · split at hlogged
      · obtain ⟨-, hid, -⟩ := Entry.published.inj (Option.some.inj hlogged)
        exact ⟨_, _, rfl, hid⟩
      · simp at hlogged
    · simp at hlogged
  · exact Or.inl h

/-- No call changes how deliveries are settled. -/
theorem mode_answer (x : Chronicle) (c : Call) :
    (x.answer c).2.service.queue.mode = x.service.queue.mode := by
  cases c with
  | store c => rfl
  | channel c =>
    rcases x.answer_channel_cases c with ⟨r, hanswer⟩ | ⟨-, -, hqueue | ⟨tag, hqueue⟩⟩
    · rw [hanswer]
      rfl
    · rw [hqueue]
    · rw [hqueue, MessageQueue.mode_ack]

end Chronicle

/-! ### What a tick publishes and purges -/

namespace Scheduler

open Chronicle (Later)

/-- The calls of a tick as of an instant: it publishes messages for events whose ids were given out,
and purges what ended before the cutoff. -/
inductive TickDuty (retention : Retention) (now : Instant) (x : Chronicle) : Call → Prop
  | due : TickDuty retention now x (.store (.due now))
  | publish (k : Nat) (r : Reminder) (issued : x.service.store.HasIssued r.id) :
      TickDuty retention now x (.channel (.publish k r))
  | purge : TickDuty retention now x (.store (.purge (retention.cutoff now)))

variable {retention : Retention} {now : Instant}

theorem publishAll_keeps (k : Nat) {events : List Event} {x : Chronicle}
    (h : ∀ e ∈ events, x.service.store.HasIssued e.id) :
    (publishAll k events).Keeps Chronicle.handler Later (TickDuty retention now) x := by
  induction events generalizing x with
  | nil => trivial
  | cons e events ih =>
    intro y hy
    refine ⟨.publish k _ (hy.hasIssued (h e List.mem_cons_self)), ?_⟩
    have hlater : x.Later (y.answer (.channel (.publish k (.ofEvent e)))).2 :=
      hy.trans (Chronicle.later_answer hy.sound _)
    dsimp only
    split
    · trivial
    · exact ih fun a ha => hlater.hasIssued (h a (List.mem_cons_of_mem _ ha))

/-- A tick keeps to its duty, whatever the others do, as long as they leave the store sound. -/
theorem tick_keeps (k : Nat) (retention : Retention) (now : Instant) (x : Chronicle) :
    (tick k retention now).Keeps Chronicle.handler Later (TickDuty retention now) x := by
  have hcycle : (cycle k retention now).Keeps Chronicle.handler Later (TickDuty retention now) x := by
    intro _ _ y hy
    refine ⟨.due, ?_⟩
    intro z hz
    refine Routine.Keeps.bind (publishAll_keeps k ?_) ?_
    · -- What was found was stored at that moment.
      intro e he
      exact hz.hasIssued (hy.sound.hasIssued (List.mem_filter.mp he).1)
    · rintro (source | ⟨⟩) z
      · trivial
      · exact fun _ _ _ _ => ⟨.purge, trivial⟩
  exact hcycle.bind fun _ _ _ _ => trivial

end Scheduler

/-! ### Handlings -/

namespace Pipeline

variable {p : Pipeline} {acts : List Act}

/-- How far a handling has come: it has still to note its delivery, or to settle it, or it has
ended. -/
def Handling.Stage (mode : AckMode) (y : Handling) : Prop :=
  (∃ k, y.rest = Sender.handle mode k y.delivery) ∨
    (∃ k handled, y.rest = Sender.settle mode k y.delivery.tag handled) ∨
    ∃ out, y.rest = .done out

/-- Noting a delivery tells that the event was marked, or that there is none. -/
theorem proceed_handle (mode : AckMode) (k : Nat) (d : Delivery) (x : Chronicle) :
    ∃ handled, ((Sender.handle mode k d).proceed Chronicle.handler x).1 =
        Sender.settle mode k d.tag handled ∧
      (handled = .missing ↔ x.service.store.find? d.reminder.id = none) := by
  have houtcome : (x.answer (.store (.markNotified d.reminder.id))).1 =
      (x.service.store.answer (.markNotified d.reminder.id)).1 := rfl
  rcases x.service.store.answer_markNotified_cases d.reminder.id with
    ⟨hnone, hanswer⟩ | ⟨e, he, hanswer⟩
  · refine ⟨.missing, ?_, by simp [hnone]⟩
    rw [hanswer] at houtcome
    simp only [Sender.handle, Routine.proceed, Chronicle.handler, houtcome, Sender.handledOf]
  · refine ⟨.marked, ?_, by simp [he]⟩
    rw [hanswer] at houtcome
    simp only [Sender.handle, Routine.proceed, Chronicle.handler, houtcome, Sender.handledOf]

theorem Handling.Stage.proceed {mode : AckMode} {y : Handling} (h : y.Stage mode) (x : Chronicle) :
    Handling.Stage mode { y with rest := (y.rest.proceed Chronicle.handler x).1 } := by
  obtain ⟨d, rest⟩ := y
  dsimp only [Handling.Stage] at h
  rcases h with ⟨k, rfl⟩ | ⟨k, handled, rfl⟩ | ⟨out, rfl⟩
  · obtain ⟨handled, hsettle, -⟩ := proceed_handle mode k d x
    exact Or.inr (Or.inl ⟨k, handled, hsettle⟩)
  · refine Or.inr (Or.inr ?_)
    cases mode with
    | auto => exact ⟨_, rfl⟩
    | manual =>
      dsimp only [Sender.settle, Routine.proceed]
      split <;> exact ⟨_, rfl⟩
  · exact Or.inr (Or.inr ⟨out, rfl⟩)

/-- A handling that is about to note its delivery has done nothing yet. -/
theorem Handling.Stage.eq_handle {mode : AckMode} {y : Handling} (h : y.Stage mode)
    (hnoting : y.IsNoting) : ∃ k, y.rest = Sender.handle mode k y.delivery := by
  rcases h with hstarted | ⟨k, handled, hsettle⟩ | ⟨out, hdone⟩
  · exact hstarted
  · rw [IsNoting, hsettle] at hnoting
    cases mode <;> simp [Sender.settle, Routine.nextCall?] at hnoting
  · rw [IsNoting, hdone] at hnoting
    simp [Routine.nextCall?] at hnoting

/-! ### The call of an act -/

/-- The call that an act makes. -/
def call? (p : Pipeline) : Act → Option Call
  | .insert e => some (.store (.insert e))
  | .update e => some (.store (.update e))
  | .delete id => some (.store (.delete id))
  | .proceedTick i => p.ticks[i]?.bind fun t => t.rest.nextCall?
  | .proceedHandling i => p.handlings[i]?.bind fun y => y.rest.nextCall?
  | .startTick _ _ _ | .receive _ | .startHandling _ _ | .requeue => none

/-- A routine has its next call answered; where it makes none, the store, the log and the mode stay
as they were. -/
theorem chronicle_proceed_cases {α : Type} (r : Routine α) (x : Chronicle) :
    (∃ c, r.nextCall? = some c ∧ (r.proceed Chronicle.handler x).2 = (x.answer c).2) ∨
      r.nextCall? = none ∧
        (r.proceed Chronicle.handler x).2.service.store = x.service.store ∧
        (r.proceed Chronicle.handler x).2.log = x.log ∧
        (r.proceed Chronicle.handler x).2.service.queue.mode = x.service.queue.mode := by
  rcases r.proceed_cases Chronicle.handler x with hcall | ⟨hnone, hsame | ⟨phase, hphase⟩⟩
  · exact Or.inl hcall
  · rw [hsame]
    exact Or.inr ⟨hnone, rfl, rfl, rfl⟩
  · rw [hphase]
    exact Or.inr ⟨hnone, rfl, rfl, rfl⟩

/-- An act has its call answered; where it makes none, the store, the log and the mode stay as they
were. -/
theorem chronicle_step_cases (p : Pipeline) (act : Act) :
    (∃ c clock, p.call? act = some c ∧
        (p.step act).chronicle = ({ p.chronicle with clock }.answer c).2) ∨
      p.call? act = none ∧
        (p.step act).chronicle.service.store = p.chronicle.service.store ∧
        (p.step act).chronicle.log = p.chronicle.log ∧
        (p.step act).chronicle.service.queue.mode = p.chronicle.service.queue.mode := by
  cases act with
  | insert | update | delete => exact Or.inl ⟨_, p.chronicle.clock, rfl, rfl⟩
  | startTick | requeue => exact Or.inr ⟨rfl, rfl, rfl, rfl⟩
  | receive k =>
    refine Or.inr ⟨rfl, ?_⟩
    rw [step]
    rcases p.chronicle.service.receive?_cases k with ⟨hservice, -⟩ | ⟨hservice, -⟩
    · rw [hservice]
      exact ⟨rfl, rfl, rfl⟩
    · rw [hservice]
      exact ⟨rfl, rfl, MessageQueue.mode_take _⟩
  | startHandling k i =>
    refine Or.inr ⟨rfl, ?_⟩
    rw [step]
    split <;> exact ⟨rfl, rfl, rfl⟩
  | proceedTick i =>
    rw [step, call?]
    cases hi : p.ticks[i]? with
    | none => exact Or.inr ⟨rfl, rfl, rfl, rfl⟩
    | some t =>
      rcases chronicle_proceed_cases t.rest { p.chronicle with clock := t.now } with
        ⟨c, hc, hanswer⟩ | hsame
      · exact Or.inl ⟨c, t.now, hc, hanswer⟩
      · exact Or.inr hsame
  | proceedHandling i =>
    rw [step, call?]
    cases hi : p.handlings[i]? with
    | none => exact Or.inr ⟨rfl, rfl, rfl, rfl⟩
    | some y =>
      rcases chronicle_proceed_cases y.rest p.chronicle with ⟨c, hc, hanswer⟩ | hsame
      · exact Or.inl ⟨c, p.chronicle.clock, hc, hanswer⟩
      · exact Or.inr hsame

/-- No act changes how deliveries are settled. -/
theorem mode_step (p : Pipeline) (act : Act) :
    (p.step act).chronicle.service.queue.mode = p.chronicle.service.queue.mode := by
  rcases p.chronicle_step_cases act with ⟨c, clock, -, hanswer⟩ | ⟨-, -, -, hmode⟩
  · rw [hanswer, Chronicle.mode_answer]
  · exact hmode

theorem mode_run (p : Pipeline) (acts : List Act) :
    (p.run acts).chronicle.service.queue.mode = p.chronicle.service.queue.mode := by
  induction acts generalizing p with
  | nil => rfl
  | cons act acts ih => exact (ih (p.step act)).trans (p.mode_step act)

/-- The pipeline after one more act. -/
theorem run_concat (p : Pipeline) (acts : List Act) (act : Act) :
    p.run (acts ++ [act]) = (p.run acts).step act :=
  p.run_append acts [act]

/-- Every act leads to a later chronicle. -/
theorem later_step (hp : p.Truthful) (act : Act) : p.chronicle.Later (p.step act).chronicle := by
  refine ⟨(hp.step act).sound, ?_⟩
  rcases p.chronicle_step_cases act with ⟨c, clock, -, hanswer⟩ | ⟨-, hstore, -⟩
  · rw [hanswer]
    exact (Chronicle.later_answer (x := { p.chronicle with clock }) hp.sound c).lastId_le
  · exact Int.le_of_eq (congrArg EventStore.lastId hstore.symm)

/-- Acts lead to a later chronicle. -/
theorem later_run (hp : p.Truthful) (acts : List Act) :
    p.chronicle.Later (p.run acts).chronicle := by
  induction acts generalizing p with
  | nil => exact .refl hp.sound
  | cons act acts ih => exact (later_step hp act).trans (ih (hp.step act))

/-- An act makes a call on the store, or it leaves the store as it was. -/
theorem store_step_cases (p : Pipeline) (act : Act) :
    (∃ c, p.call? act = some (.store c) ∧
        (p.step act).chronicle.service.store = (p.chronicle.service.store.answer c).2) ∨
      (∀ c, p.call? act ≠ some (.store c)) ∧
        (p.step act).chronicle.service.store = p.chronicle.service.store := by
  rcases p.chronicle_step_cases act with ⟨c | c, clock, hcall, hanswer⟩ | ⟨hnone, hstore, -⟩
  · refine Or.inl ⟨c, hcall, ?_⟩
    rw [hanswer]
    rfl
  · refine Or.inr ⟨by simp [hcall], ?_⟩
    rw [hanswer]
    exact Chronicle.store_answer_channel { p.chronicle with clock } c
  · exact Or.inr ⟨by simp [hnone], hstore⟩

/-- The ticks after an act: those before it, one that has proceeded, or one that was started. -/
theorem mem_ticks_step {act : Act} {t : Ticking} (ht : t ∈ (p.step act).ticks) :
    t ∈ p.ticks ∨
      (∃ k retention, act = .startTick k retention t.now ∧
        t.rest = Scheduler.tick k retention t.now) ∨
      ∃ u ∈ p.ticks, t.now = u.now ∧
        let out := u.rest.proceed Chronicle.handler { p.chronicle with clock := u.now }
        t.rest = out.1 ∧ (p.step act).chronicle = out.2 := by
  cases act with
  | insert | update | delete | receive | requeue => exact Or.inl ht
  | startTick k retention now =>
    rcases List.mem_append.mp ht with ht | ht
    · exact Or.inl ht
    · obtain rfl := List.mem_singleton.mp ht
      exact Or.inr (Or.inl ⟨k, retention, rfl, rfl⟩)
  | startHandling k i =>
    rw [step] at ht
    split at ht <;> exact Or.inl ht
  | proceedHandling i =>
    rw [step] at ht
    split at ht <;> exact Or.inl ht
  | proceedTick i =>
    rw [step] at ht ⊢
    cases hi : p.ticks[i]? with
    | none =>
      rw [hi] at ht
      exact Or.inl ht
    | some u =>
      rw [hi] at ht
      rcases List.mem_or_eq_of_mem_set ht with ht | rfl
      · exact Or.inl ht
      · exact Or.inr (Or.inr ⟨u, List.mem_of_getElem? hi, rfl, rfl, rfl⟩)

/-- The handlings after an act: those before it, one that has proceeded, or one that was started. -/
theorem mem_handlings_step {act : Act} {y : Handling} (hy : y ∈ (p.step act).handlings) :
    y ∈ p.handlings ∨
      (∃ k, y.rest = Sender.handle p.chronicle.service.queue.mode k y.delivery) ∨
      ∃ z ∈ p.handlings, y = { z with rest := (z.rest.proceed Chronicle.handler p.chronicle).1 } := by
  cases act with
  | insert | update | delete | receive | requeue | startTick => exact Or.inl hy
  | proceedTick i =>
    rw [step] at hy
    split at hy <;> exact Or.inl hy
  | startHandling k i =>
    rw [step] at hy
    split at hy
    · rcases List.mem_append.mp hy with hy | hy
      · exact Or.inl hy
      · obtain rfl := List.mem_singleton.mp hy
        exact Or.inr (Or.inl ⟨k, rfl⟩)
    · exact Or.inl hy
  | proceedHandling i =>
    rw [step] at hy
    split at hy
    · next z hz =>
      rcases List.mem_or_eq_of_mem_set hy with hy | rfl
      · exact Or.inl hy
      · exact Or.inr (Or.inr ⟨z, List.mem_of_getElem? hz, rfl⟩)
    · exact Or.inl hy

/-! ### The invariant -/

/-- After some acts: messages were published only for ids that were given out, every tick was
started and keeps to its duty, and handlings take their course. -/
structure Dutiful (acts : List Act) (p : Pipeline) : Prop where
  issued : ∀ tag id now, .published tag id now ∈ p.chronicle.log →
    p.chronicle.service.store.HasIssued id
  ticks : ∀ t ∈ p.ticks, ∃ k retention, .startTick k retention t.now ∈ acts ∧
    t.rest.Keeps Chronicle.handler Chronicle.Later (Scheduler.TickDuty retention t.now) p.chronicle
  handlings : ∀ y ∈ p.handlings, y.Stage p.chronicle.service.queue.mode

theorem dutiful_opened (mode : AckMode) (producers consumers : List Link) :
    (opened mode producers consumers).Dutiful [] where
  issued := by simp [opened]
  ticks := by simp [opened]
  handlings := by simp [opened]

namespace Dutiful

/-- What a tick is about to call belongs to its duty. -/
theorem tickDuty (h : p.Dutiful acts) (hp : p.Truthful) {t : Ticking} (ht : t ∈ p.ticks) {c : Call}
    (hc : t.rest.nextCall? = some c) :
    ∃ k retention, .startTick k retention t.now ∈ acts ∧
      Scheduler.TickDuty retention t.now p.chronicle c := by
  obtain ⟨k, retention, hstart, hkeeps⟩ := h.ticks t ht
  exact ⟨k, retention, hstart, hkeeps.of_nextCall? (.refl hp.sound) hc⟩

/-- Whatever is published is published for an id that was given out. -/
theorem hasIssued_of_publish (h : p.Dutiful acts) (hp : p.Truthful) {act : Act} {k : Nat}
    {r : Reminder} (hcall : p.call? act = some (.channel (.publish k r))) :
    p.chronicle.service.store.HasIssued r.id := by
  cases act with
  | insert | update | delete | startTick | receive | startHandling | requeue =>
    simp [call?] at hcall
  | proceedTick i =>
    obtain ⟨t, ht, hnext⟩ := Option.bind_eq_some_iff.mp hcall
    obtain ⟨_, _, -, hduty⟩ := h.tickDuty hp (List.mem_of_getElem? ht) hnext
    cases hduty with
    | publish _ _ hissued => exact hissued
  | proceedHandling i =>
    obtain ⟨y, hy, hnext⟩ := Option.bind_eq_some_iff.mp hcall
    cases (hp.handlings y (List.mem_of_getElem? hy)).2.of_nextCall? hnext

/-- Every act leaves the pipeline dutiful. -/
theorem step (h : p.Dutiful acts) (hp : p.Truthful) (act : Act) :
    (p.step act).Dutiful (acts ++ [act]) := by
  have hlater : p.chronicle.Later (p.step act).chronicle := later_step hp act
  refine ⟨?_, ?_, ?_⟩
  · intro tag id now hpublished
    refine hlater.hasIssued ?_
    rcases p.chronicle_step_cases act with ⟨c, clock, hcall, hanswer⟩ | ⟨-, -, hlog, -⟩
    · rw [hanswer] at hpublished
      rcases Chronicle.published_of_answer hpublished with hbefore | ⟨k, r, rfl, rfl⟩
      · exact h.issued tag id now hbefore
      · exact h.hasIssued_of_publish hp hcall
    · exact h.issued tag id now (hlog ▸ hpublished)
  · intro t ht
    rcases mem_ticks_step ht with ht | ⟨k, retention, rfl, hrest⟩ | ⟨u, hu, hnow, hrest, hafter⟩
    · obtain ⟨k, retention, hstart, hkeeps⟩ := h.ticks t ht
      exact ⟨k, retention, List.mem_append_left _ hstart,
        hkeeps.of_rely hlater Chronicle.Later.trans⟩
    · refine ⟨k, retention, List.mem_append_right _ List.mem_cons_self, ?_⟩
      rw [hrest]
      exact Scheduler.tick_keeps k retention t.now _
    · obtain ⟨k, retention, hstart, hkeeps⟩ := h.ticks u hu
      refine ⟨k, retention, List.mem_append_left _ (hnow ▸ hstart), ?_⟩
      rw [hrest, hafter, hnow]
      exact hkeeps.proceed ⟨hp.sound, Int.le_refl _⟩
  · intro y hy
    rw [mode_step]
    rcases mem_handlings_step hy with hy | hstarted | ⟨z, hz, rfl⟩
    · exact h.handlings y hy
    · exact Or.inl hstarted
    · exact (h.handlings z hz).proceed p.chronicle

end Dutiful

/-- A pipeline that was opened with nothing in it is dutiful after any acts. -/
theorem dutiful_run (mode : AckMode) (producers consumers : List Link) (acts : List Act) :
    ((opened mode producers consumers).run acts).Dutiful acts := by
  induction acts using List.reverseRecOn with
  | nil => exact dutiful_opened mode producers consumers
  | append_singleton acts act ih =>
    rw [run_concat]
    exact ih.step ((truthful_opened mode producers consumers).run acts) act

end Pipeline

end Datebook
