import Datebook.Proofs.Pipeline.Duty

/-!
# Purged reminders

A tick publishes a message for every due event and then purges the events that ended before its
cutoff, whether their messages were handled or not. An event that ended so long ago is published
and purged by one and the same tick; the message is delivered, but there is nothing left to note it
of, and no later tick finds the event again.

A handling misses the event that its delivery names in this case and where a client deleted the
event, and in no other: the event was inserted before its message was published, and an id is not
given out again.

## Main definitions

* `Datebook.Pipeline.Purged`, `Datebook.Pipeline.Deleted`: how an event is removed.

## Main results

* `Datebook.Pipeline.gone_iff_removed`
* `Datebook.Pipeline.missing_iff_purged_or_deleted`
-/

namespace Datebook

namespace Sender

/-- Settling a delivery for a consumer that is open tells what has become of it. -/
theorem settle_runWith (mode : AckMode) (k : Nat) (tag : Int) (handled : Handled) {x : Chronicle}
    (hopen : (x.service.consumer k).ensureOpen = .ok ()) :
    ((settle mode k tag handled).runWith Chronicle.handler x).1 = .ok handled := by
  cases mode with
  | auto => rfl
  | manual =>
    simp only [settle, Routine.runWith, Chronicle.handler, Chronicle.answer, Service.answer,
      Service.answerChannel, hopen]

end Sender

namespace Pipeline

variable {p : Pipeline} {acts : List Act} {id : Int}

/-! ### Removal -/

/-- One of the acts is the call by which a tick purges the event with an id: the event ended before
the cutoff. -/
def Purged (p : Pipeline) (acts : List Act) (id : Int) : Prop :=
  ∃ before i t k retention e, before ++ [.proceedTick i] <+: acts ∧
    .startTick k retention t.now ∈ before ∧ (p.run before).ticks[i]? = some t ∧
    t.rest.nextCall? = some (.store (.purge (retention.cutoff t.now))) ∧
    (p.run before).chronicle.service.store.find? id = some e ∧ e.offTime < retention.cutoff t.now

/-- One of the acts is the call by which a client deletes the event with an id. -/
def Deleted (p : Pipeline) (acts : List Act) (id : Int) : Prop :=
  ∃ before e, before ++ [.delete id] <+: acts ∧
    (p.run before).chronicle.service.store.find? id = some e

/-- One of the acts makes a call that removes the event with an id. -/
def Removed (p : Pipeline) (acts : List Act) (id : Int) : Prop :=
  ∃ before act c, before ++ [act] <+: acts ∧ (p.run before).call? act = some (.store c) ∧
    (p.run before).chronicle.service.store.Removes id c

theorem removed_concat_iff {act : Act} :
    p.Removed (acts ++ [act]) id ↔
      p.Removed acts id ∨ ∃ c, (p.run acts).call? act = some (.store c) ∧
        (p.run acts).chronicle.service.store.Removes id c := by
  simp only [Removed, List.prefix_concat_iff]
  constructor
  · rintro ⟨before, act', c, hsplit | hprefix, hcall, hremoves⟩
    · obtain ⟨rfl, hact⟩ := List.append_inj' hsplit rfl
      obtain rfl := List.singleton_inj.mp hact
      exact Or.inr ⟨c, hcall, hremoves⟩
    · exact Or.inl ⟨before, act', c, hprefix, hcall, hremoves⟩
  · rintro (⟨before, act', c, hprefix, hcall, hremoves⟩ | ⟨c, hcall, hremoves⟩)
    · exact ⟨before, act', c, Or.inr hprefix, hcall, hremoves⟩
    · exact ⟨acts, act, c, Or.inl rfl, hcall, hremoves⟩

/-- What was removed was inserted before. -/
theorem Removed.hasIssued (h : p.Removed acts id) (hp : p.Truthful) :
    (p.run acts).chronicle.service.store.HasIssued id := by
  obtain ⟨before, act, c, ⟨after, rfl⟩, -, e, he, -⟩ := h
  obtain ⟨hmem, rfl⟩ := EventStore.mem_of_find?_eq_some he
  have hbefore : (p.run before).Truthful := hp.run before
  rw [List.append_assoc, run_append]
  exact (later_run hbefore _).hasIssued (hbefore.sound.hasIssued hmem)

/-- Of an id that was given out there is no event any more exactly if one of the acts removed it. -/
theorem gone_iff_removed (mode : AckMode) (producers consumers : List Link) (acts : List Act)
    (id : Int) :
    let p := opened mode producers consumers
    (p.run acts).chronicle.service.store.HasIssued id →
      ((p.run acts).chronicle.service.store.find? id = none ↔ p.Removed acts id) := by
  intro p
  have htruthful : p.Truthful := truthful_opened mode producers consumers
  induction acts using List.reverseRecOn with
  | nil =>
    rintro ⟨hpos, hle⟩
    have hzero : (p.run []).chronicle.service.store.lastId = 0 := rfl
    omega
  | append_singleton acts act ih =>
    intro hid
    have hsound := (htruthful.run acts).sound
    rw [run_concat] at hid ⊢
    rw [removed_concat_iff]
    rcases (p.run acts).store_step_cases act with ⟨c, hcall, hstore⟩ | ⟨hnone, hstore⟩
    · rw [hstore] at hid ⊢
      simp only [hcall, Option.some.injEq, Call.store.injEq, exists_eq_left']
      by_cases hold : id ≤ (p.run acts).chronicle.service.store.lastId
      · rw [hsound.find?_answer_eq_none_iff c hold, ih ⟨hid.1, hold⟩]
      · -- The id is new, so that its event was just inserted and nothing was removed before.
        refine iff_of_false (EventStore.find?_answer_of_issued? ?_) ?_
        · exact EventStore.issued?_eq_some_of_lt (Int.not_le.mp hold) hid.2
        rintro (hremoved | ⟨e, he, -⟩)
        · exact hold (hremoved.hasIssued htruthful).2
        · obtain ⟨hmem, rfl⟩ := EventStore.mem_of_find?_eq_some he
          exact hold (hsound.id_le e hmem)
    · rw [hstore] at hid ⊢
      simp only [hnone, false_and, exists_false, or_false]
      exact ih hid

/-- Events are removed by clients and by ticks, and by nobody else. -/
theorem removed_iff_purged_or_deleted (mode : AckMode) (producers consumers : List Link)
    (acts : List Act) (id : Int) :
    (opened mode producers consumers).Removed acts id ↔
      (opened mode producers consumers).Purged acts id ∨
        (opened mode producers consumers).Deleted acts id := by
  let p := opened mode producers consumers
  constructor
  · rintro ⟨before, act, c, hprefix, hcall, e, he, hremoves⟩
    have htruthful : (p.run before).Truthful :=
      (truthful_opened mode producers consumers).run before
    cases act with
    | insert | update =>
      obtain rfl := Call.store.inj (Option.some.inj hcall)
      simp at hremoves
    | startTick | receive | startHandling | requeue => simp [call?] at hcall
    | delete n =>
      obtain rfl := Call.store.inj (Option.some.inj hcall)
      obtain rfl : n = id := by simpa using hremoves
      exact Or.inr ⟨before, e, hprefix, he⟩
    | proceedTick i =>
      obtain ⟨t, ht, hnext⟩ := Option.bind_eq_some_iff.mp hcall
      obtain ⟨k, retention, hstart, hduty⟩ :=
        (dutiful_run mode producers consumers before).tickDuty htruthful
          (List.mem_of_getElem? ht) hnext
      cases hduty with
      | due => simp at hremoves
      | purge =>
        obtain ⟨cutoff, hcutoff, hended⟩ : ∃ cutoff, StoreCall.purge (retention.cutoff t.now) =
            .purge cutoff ∧ e.offTime < cutoff := by simpa using hremoves
        obtain rfl := StoreCall.purge.inj hcutoff
        exact Or.inl ⟨before, i, t, k, retention, e, hprefix, hstart, ht, hnext, he, hended⟩
    | proceedHandling i =>
      obtain ⟨y, hy, hnext⟩ := Option.bind_eq_some_iff.mp hcall
      cases (htruthful.handlings y (List.mem_of_getElem? hy)).2.of_nextCall? hnext
      simp at hremoves
  · rintro (⟨before, i, t, k, retention, e, hprefix, -, ht, hnext, he, hended⟩ |
      ⟨before, e, hprefix, he⟩)
    · refine ⟨before, .proceedTick i, _, hprefix, ?_, e, he, Or.inr ⟨_, rfl, hended⟩⟩
      rw [call?, ht]
      exact hnext
    · exact ⟨before, .delete id, _, hprefix, rfl, e, he, Or.inl rfl⟩

/-- **A reminder is missed only if its event was purged or deleted.** In a pipeline that was opened
with nothing in it, whatever has happened in it and in whatever order, a handling that is about to
note its delivery has done nothing yet, and the delivery is of a message that was published. The
handling goes on to settle it as marked or as missing, and for an open consumer that is what it
comes to. It is missing exactly if a tick has purged the event, which ended before the cutoff, or a
client has deleted it. -/
theorem missing_iff_purged_or_deleted (mode : AckMode) (producers consumers : List Link)
    (acts : List Act) {i : Nat} {y : Handling}
    (hy : ((opened mode producers consumers).run acts).handlings[i]? = some y)
    (hnoting : y.IsNoting) :
    let p := opened mode producers consumers
    (∃ now, .published y.delivery.tag y.delivery.reminder.id now ∈ (p.run acts).chronicle.log) ∧
      ∃ k handled, y.rest = Sender.handle mode k y.delivery ∧
        (p.run (acts ++ [.proceedHandling i])).handlings[i]? =
          some { y with rest := Sender.settle mode k y.delivery.tag handled } ∧
        (∀ x : Chronicle, (x.service.consumer k).ensureOpen = .ok () →
          ((Sender.settle mode k y.delivery.tag handled).runWith Chronicle.handler x).1 =
            .ok handled) ∧
        (handled = .missing ↔
          p.Purged acts y.delivery.reminder.id ∨ p.Deleted acts y.delivery.reminder.id) := by
  intro p
  have htruthful : (p.run acts).Truthful := (truthful_opened mode producers consumers).run acts
  have hdutiful : (p.run acts).Dutiful acts := dutiful_run mode producers consumers acts
  have hmem : y ∈ (p.run acts).handlings := List.mem_of_getElem? hy
  have hmode : (p.run acts).chronicle.service.queue.mode = mode := p.mode_run acts
  obtain ⟨k, hrest⟩ := (hdutiful.handlings y hmem).eq_handle hnoting
  rw [hmode] at hrest
  obtain ⟨handled, hsettle, hmissing⟩ := proceed_handle mode k y.delivery (p.run acts).chronicle
  obtain ⟨now, hpublished⟩ := htruthful.received y.delivery (htruthful.handlings y hmem).1
  -- What was published names an event that was inserted, so that it is there unless removed.
  have hissued := hdutiful.issued _ _ now hpublished
  refine ⟨⟨now, hpublished⟩, k, handled, hrest, ?_, fun x => Sender.settle_runWith mode k _ handled,
    ?_⟩
  · have hlt : i < (p.run acts).handlings.length := (List.getElem?_eq_some_iff.mp hy).1
    rw [run_concat, step, hy]
    simp only [hrest, hsettle, List.getElem?_set_self hlt]
  · rw [hmissing, gone_iff_removed mode producers consumers acts _ hissued,
      removed_iff_purged_or_deleted]

/-- An event ended on 2022-06-10 and was not reminded of until 2024-06-04, when a tick publishes its
message and purges it. The message is received. -/
def pastReminder : List Act :=
  let midnight (day : Int) : Instant := (Instant.of? day 0 0).getD .epoch
  let past : Event := {
    userId := 1
    title := "e"
    onTime := midnight 19146
    offTime := midnight 19153
    notifyTime := some (midnight 19147) }
  [.insert past, .startTick 0 .year (midnight 19878)] ++ List.replicate 7 (.proceedTick 0) ++
    [.receive 0, .startHandling 0 0]

/-- Nobody deletes the event, its message was published, and the handling of it comes to missing. -/
theorem past_reminder_missed :
    let p := (opened .auto [.connected] [.connected]).run (pastReminder ++ [.proceedHandling 0])
    (∀ id, .delete id ∉ pastReminder) ∧
      p.chronicle.log =
        [.published 1 1 ((Instant.of? 19878 0 0).getD .epoch), .set 1] ∧
      p.handlings.map (fun y => (y.delivery.tag, (y.rest.runWith Chronicle.handler p.chronicle).1)) =
        [(1, .ok .missing)] := by
  refine ⟨by simp [pastReminder], by decide +kernel, by decide +kernel⟩

/-- The event of the past reminder was purged, so that the handling misses it. -/
theorem past_reminder_purged :
    let p := opened .auto [.connected] [.connected]
    (∃ y, (p.run pastReminder).handlings[0]? = some y ∧ y.IsNoting) ∧ p.Purged pastReminder 1 := by
  intro p
  have hlt : 0 < (p.run pastReminder).handlings.length := by decide +kernel
  have hall : ∀ y ∈ (p.run pastReminder).handlings, y.delivery.reminder.id = 1 ∧
      y.rest.nextCall? = some (.store (.markNotified y.delivery.reminder.id)) := by
    decide +kernel
  have hresult : ((p.run (pastReminder ++ [.proceedHandling 0])).handlings.map fun y =>
      (y.rest.runWith Chronicle.handler (p.run pastReminder).chronicle).1)[0]? =
        some (.ok .missing) := by
    decide +kernel
  obtain ⟨y, hy⟩ : ∃ y, (p.run pastReminder).handlings[0]? = some y :=
    ⟨_, List.getElem?_eq_getElem hlt⟩
  obtain ⟨hid, hnoting⟩ := hall y (List.mem_of_getElem? hy)
  refine ⟨⟨y, hy, hnoting⟩, ?_⟩
  obtain ⟨-, k, handled, -, hsettle, -, hmissing⟩ :=
    missing_iff_purged_or_deleted .auto [.connected] [.connected] pastReminder hy hnoting
  rw [List.getElem?_map, hsettle] at hresult
  obtain rfl : handled = .missing := Except.ok.inj (Option.some.inj hresult)
  rcases hmissing.mp rfl with hpurged | ⟨before, e, hprefix, -⟩
  · exact hid ▸ hpurged
  · have hdelete := hprefix.subset (List.mem_append_right before List.mem_cons_self)
    simp [pastReminder] at hdelete

end Pipeline

end Datebook
