import Datebook.Proofs.Queue.Conservation
import Datebook.Proofs.Sender.Moves

/-!
# The sender's loop among others

While the loop of the sender is at work, others call the store, publish through handles of their
own and push messages of any form, write the flag or drop the side that writes it, and let time
pass. Any call of the loop may be held up or made to fail, so that others act between any two of
them; only its consumer always answers at once. Beside the loop a record is kept of the messages
that others have brought, of the deliveries that were passed on to be handled, and of what came of
the handlings.

In every order of these acts nothing is lost: the messages that are no longer ready are the first
ones there were, and those of them that decode were passed on in their order, up to one that is
about to be.

## Main definitions

* `Datebook.Sender.Shift`, `Datebook.Sender.Shift.Act`, `Datebook.Sender.Shift.run`
* `Datebook.Sender.Shift.Steady`: the invariant.

## Main results

* `Datebook.Sender.Shift.Steady.step`, `Datebook.Sender.Shift.Steady.run`
* `Datebook.Sender.Shift.loop_loses_nothing`
-/

namespace Datebook

/-- The call reaches no consumer. -/
def Call.sparesConsumers : Call → Bool
  | .store _ | .channel (.connectProducer _) | .channel (.publish _ _)
  | .channel (.closeProducer _) => true
  | .channel (.connectConsumer _) | .channel (.ack _ _) | .channel (.closeConsumer _) => false

/-- The messages that a call brings to the queue. -/
def Service.brought (s : Service) : Call → List Message
  | .store _ => []
  | .channel c => (s.accepted? c).toList.map fun p => ⟨p.1, p.2, false⟩

/-- A call that reaches no consumer leaves the queue as it is or pushes what it brings. -/
theorem Service.answer_sparesConsumers {c : Call} (hc : c.sparesConsumers = true) (s : Service) :
    (s.answer c).2.consumers = s.consumers ∧
      ((s.answer c).2.queue = s.queue ∧ s.brought c = [] ∨
        ∃ payload, (s.answer c).2.queue = s.queue.push payload ∧
          s.brought c = [⟨s.queue.lastTag + 1, payload, false⟩]) := by
  match c with
  | .store c => exact ⟨rfl, Or.inl ⟨rfl, rfl⟩⟩
  | .channel (.connectProducer p) =>
    rw [answer, answerChannel]
    split <;> exact ⟨rfl, Or.inl ⟨rfl, rfl⟩⟩
  | .channel (.closeProducer p) => exact ⟨rfl, Or.inl ⟨rfl, rfl⟩⟩
  | .channel (.publish p reminder) =>
    rw [answer, answerChannel, brought, accepted?]
    generalize reminder.payload = payload
    cases (s.producer p).ensureOpen with
    | ok u => exact ⟨rfl, Or.inr ⟨payload, rfl, rfl⟩⟩
    | error e => exact ⟨rfl, Or.inl ⟨rfl, rfl⟩⟩

namespace Sender

/-- A loop at work in a scene, and the record of what was brought, passed on and handled. -/
structure Shift where
  now : Nat := 0
  scene : Scene
  loop : Loop := {}
  /-- The messages that others have brought, in order. -/
  brought : List Message := []
  /-- The deliveries that were passed on to be handled, in order. -/
  handed : List Delivery := []
  /-- What came of the handlings that have ended, in order. -/
  outcomes : List (Except HandleError Handled) := []

namespace Shift

/-- What may happen during a shift. -/
inductive Act where
  /-- The loop takes a step, if there is one to be taken. -/
  | go
  /-- The loop begins to receive, and its receiver has not looked yet. -/
  | approach
  /-- The loop sees the news of the flag before its receiver looks. -/
  | heed
  /-- A call of somebody else, who has no consumer. -/
  | call (c : Call)
  | push (payload : Json.Bytes)
  | flag (change : Flag.Change)
  /-- The next call of an operation will be held up or will fail; no consumer closes or receives
  like that. -/
  | fault (op : Operation) (f : Fault)
  | wait (millis : Nat)

/-- The loop has moved on. -/
def moved (x : Shift) (out : Loop × Scene) : Shift :=
  { x with
    loop := out.1
    scene := out.2
    handed := x.handed ++ x.loop.stage.received?.toList
    outcomes := x.outcomes ++ x.loop.stage.outcome?.toList }

/-- The shift after an act. The scene notes the calls of the loop only. -/
def step (settings : LoopSettings) (x : Shift) : Act → Shift
  | .go =>
    match x.loop.step? settings x.now x.scene with
    | some out => x.moved out
    | none => x
  | .approach =>
    match x.loop.stage with
    | .choosing =>
      if x.scene.flag.value then x
      else x.moved ({ x.loop with stage := .receiving (.held x.now none) }, x.scene)
    | _ => x
  | .heed =>
    match x.loop.stage with
    | .receiving (.done _) => x
    | .receiving receive =>
      if x.loop.hasNews x.scene then x.moved (x.loop.release settings x.now receive x.scene) else x
    | _ => x
  | .call c =>
    if c.sparesConsumers then
      { x with
        scene := { (x.scene.finish x.now c none).2 with trace := x.scene.trace }
        brought := x.brought ++ x.scene.service.brought c }
    else x
  | .push payload =>
    { x with
      scene := { x.scene with
        service := { x.scene.service with queue := x.scene.service.queue.push payload }
        line := x.scene.line.callFirst }
      brought := x.brought ++ [⟨x.scene.service.queue.lastTag + 1, payload, false⟩] }
  | .flag change => { x with scene := { x.scene with flag := x.scene.flag.apply change } }
  | .fault op f =>
    if op = .receive ∨ op = .closeConsumer then x
    else { x with scene := { x.scene with faults := x.scene.faults ++ [(op, f)] } }
  | .wait millis => { x with now := x.now + millis }

/-- The shift after a list of acts. -/
def run (settings : LoopSettings) (x : Shift) : List Act → Shift
  | [] => x
  | act :: acts => (x.step settings act).run settings acts

/-- A loop that is started on a service, with a flag that nobody has written yet. -/
def start (service : Service) : Shift where
  scene := { service }

end Shift

namespace Shift

variable {settings : LoopSettings} {service : Service} {x : Shift}

/-! ### The invariant -/

/-- The loop stands as it should, and the record is true: of the messages that were ready at the
start or were brought since, those that were taken come first, and what decodes of them was passed
on or is about to be. -/
structure Steady (settings : LoopSettings) (service : Service) (x : Shift) : Prop where
  fits : x.loop.Fits settings.consumer x.scene
  fair : Loop.Fair x.scene
  ascending : (service.queue.ready ++ x.brought).Pairwise fun m n => m.tag < n.tag
  tag_le : ∀ m ∈ service.queue.ready ++ x.brought, m.tag ≤ x.scene.service.queue.lastTag
  taken : ∃ taken, service.queue.ready ++ x.brought = taken ++ x.scene.service.queue.ready ∧
    taken.filterMap Message.delivery? = x.handed ++ x.loop.stage.received?.toList
  outcomes : x.outcomes.length + x.loop.stage.busy = x.handed.length

theorem steady_start (horder : service.queue.InOrder)
    (hopen : service.consumer settings.consumer = .connected) :
    (start service).Steady settings service where
  fits := ⟨hopen, rfl, by simp [StoreOpen, start]⟩
  fair := ⟨by simp [start], by simp [start], by simp [start]⟩
  ascending := by
    rw [start, List.append_nil]
    exact (List.pairwise_append.mp horder.ascending).2.1
  tag_le m hm := by
    rw [start, List.append_nil] at hm
    exact horder.tag_le m (List.mem_append_right _ hm)
  taken := ⟨[], List.append_nil _, rfl⟩
  outcomes := rfl

namespace Steady

/-- The record stays true when the loop moves on. -/
theorem moved (h : x.Steady settings service) {out : Loop × Scene}
    (hmoves : x.loop.Moves settings.consumer x.scene out) :
    (x.moved out).Steady settings service where
  fits := hmoves.fits
  fair :=
    { receive := fun y hy => h.fair.receive y (hmoves.faults.mem hy)
      closeConsumer := fun y hy => h.fair.closeConsumer y (hmoves.faults.mem hy)
      written := by
        rw [Shift.moved, hmoves.flag]
        exact h.fair.written }
  ascending := h.ascending
  tag_le m hm := by
    rw [Shift.moved, hmoves.lastTag]
    exact h.tag_le m hm
  taken := by
    obtain ⟨before, hbefore, hpassed⟩ := h.taken
    obtain ⟨taken, htaken, hreceived⟩ := hmoves.taken
    refine ⟨before ++ taken, ?_, ?_⟩
    · rw [Shift.moved, hbefore, htaken, List.append_assoc]
    · rw [List.filterMap_append, hpassed, hreceived]
      rfl
  outcomes := by
    have hbusy := hmoves.busy
    have houtcomes := h.outcomes
    simp only [Shift.moved, List.length_append]
    omega

/-- The record stays true when others act: the queue stays as it is, or one message is pushed. -/
theorem others (h : x.Steady settings service) {scene : Scene} {more : List Message}
    (hconsumers : scene.service.consumers = x.scene.service.consumers)
    (hasked : Asked x.scene → Asked scene) (htrace : scene.trace = x.scene.trace)
    (hfair : Loop.Fair scene)
    (hqueue : scene.service.queue = x.scene.service.queue ∧ more = [] ∨
      ∃ payload, scene.service.queue = x.scene.service.queue.push payload ∧
        more = [⟨x.scene.service.queue.lastTag + 1, payload, false⟩]) :
    { x with scene, brought := x.brought ++ more }.Steady settings service := by
  have hfits : x.loop.Fits settings.consumer scene :=
    h.fits.of_others (by rw [Service.consumer, hconsumers, Service.consumer]) hasked htrace
  obtain ⟨taken, htaken, hpassed⟩ := h.taken
  rcases hqueue with ⟨hsame, rfl⟩ | ⟨payload, hpush, rfl⟩
  · rw [List.append_nil]
    exact
      { fits := hfits
        fair := hfair
        ascending := h.ascending
        tag_le := hsame ▸ h.tag_le
        taken := ⟨taken, hsame ▸ htaken, hpassed⟩
        outcomes := h.outcomes }
  · have hlast : scene.service.queue.lastTag = x.scene.service.queue.lastTag + 1 := by
      rw [hpush]
      rfl
    exact
      { fits := hfits
        fair := hfair
        ascending := by
          rw [← List.append_assoc]
          refine List.pairwise_append.mpr ⟨h.ascending, List.pairwise_singleton _ _, ?_⟩
          intro m hm n hn
          obtain rfl := List.mem_singleton.mp hn
          exact Int.lt_add_one_of_le (h.tag_le m hm)
        tag_le := by
          intro m hm
          rw [← List.append_assoc] at hm
          rw [hlast]
          rcases List.mem_append.mp hm with hm | hm
          · exact Int.le_add_one (h.tag_le m hm)
          · obtain rfl := List.mem_singleton.mp hm
            exact Int.le_refl _
        taken := by
          refine ⟨taken, ?_, hpassed⟩
          rw [hpush, ← List.append_assoc, htaken, List.append_assoc]
          rfl
        outcomes := h.outcomes }

/-- The record stays true when only what surrounds the service changes. -/
theorem around (h : x.Steady settings service) {scene : Scene}
    (hservice : scene.service = x.scene.service) (hasked : Asked x.scene → Asked scene)
    (htrace : scene.trace = x.scene.trace) (hfair : Loop.Fair scene) :
    { x with scene }.Steady settings service := by
  have hothers : { x with scene, brought := x.brought ++ [] }.Steady settings service :=
    h.others (congrArg Service.consumers hservice) hasked htrace hfair
      (Or.inl ⟨congrArg Service.queue hservice, rfl⟩)
  rwa [List.append_nil] at hothers

/-- The record stays true whatever happens next. -/
theorem step (h : x.Steady settings service) (act : Act) :
    (x.step settings act).Steady settings service := by
  cases act with
  | go =>
    rw [Shift.step]
    split
    · next out hstep => exact h.moved (Loop.moves_step? h.fits h.fair hstep)
    · exact h
  | approach =>
    rw [Shift.step]
    split
    · next hstage =>
      split
      · exact h
      · exact h.moved (Loop.moves_approach hstage h.fits)
    · exact h
  | heed =>
    rw [Shift.step]
    split
    · exact h
    · next receive hreceive hstage =>
      split
      · next hnews => exact h.moved (Loop.moves_heed hstage hreceive h.fits h.fair hnews)
      · exact h
    · exact h
  | call c =>
    rw [Shift.step]
    split
    · next hc =>
      obtain ⟨hconsumers, hqueue⟩ := x.scene.service.answer_sparesConsumers hc
      exact h.others hconsumers id rfl ⟨h.fair.receive, h.fair.closeConsumer, h.fair.written⟩ hqueue
    · exact h
  | push payload =>
    exact h.others rfl id rfl ⟨h.fair.receive, h.fair.closeConsumer, h.fair.written⟩
      (Or.inr ⟨payload, rfl, rfl⟩)
  | flag change =>
    exact h.around rfl (asked_apply change) rfl
      ⟨h.fair.receive, h.fair.closeConsumer, written_apply change h.fair.written⟩
  | fault op f =>
    rw [Shift.step]
    split
    · exact h
    · next hop =>
      obtain ⟨hreceive, hclose⟩ := not_or.mp hop
      refine h.around rfl id rfl ⟨?_, ?_, h.fair.written⟩
      · exact List.forall_mem_append.mpr ⟨h.fair.receive, List.forall_mem_singleton.mpr hreceive⟩
      · exact List.forall_mem_append.mpr
          ⟨h.fair.closeConsumer, List.forall_mem_singleton.mpr hclose⟩
  | wait millis => exact { h with }

theorem run (h : x.Steady settings service) (acts : List Act) :
    (x.run settings acts).Steady settings service := by
  induction acts generalizing x with
  | nil => exact h
  | cons act acts ih => exact ih (h.step act)

/-- What was passed on comes first of all that could be, in the order of the tags. -/
theorem handed_begins (h : x.Steady settings service) :
    x.handed <+: (service.queue.ready ++ x.brought).filterMap Message.delivery? ∧
      x.handed.Pairwise fun d e => d.tag < e.tag := by
  obtain ⟨taken, htaken, hpassed⟩ := h.taken
  have hhanded : x.handed <+: (service.queue.ready ++ x.brought).filterMap Message.delivery? := by
    rw [htaken, List.filterMap_append, hpassed, List.append_assoc]
    exact List.prefix_append _ _
  refine ⟨hhanded, List.Pairwise.sublist hhanded.sublist ?_⟩
  refine List.pairwise_filterMap.mpr (h.ascending.imp fun hlt d hd e he => ?_)
  rwa [Message.tag_of_delivery?_eq_some hd, Message.tag_of_delivery?_eq_some he]

/-- Where nothing is under way, every message that was taken does not decode or was handled. -/
theorem taken_handled (h : x.Steady settings service) (hidle : x.loop.Idle) :
    x.outcomes.length = x.handed.length ∧
      ∃ taken, service.queue.ready ++ x.brought = taken ++ x.scene.service.queue.ready ∧
        ∀ m ∈ taken, m.Unreadable ∨ ∃ d ∈ x.handed, m.delivery? = some d := by
  obtain ⟨taken, htaken, hpassed⟩ := h.taken
  rw [hidle.received, Option.toList_none, List.append_nil] at hpassed
  have houtcomes := h.outcomes
  rw [hidle.busy, Nat.add_zero] at houtcomes
  refine ⟨houtcomes, taken, htaken, fun m hm => ?_⟩
  cases hdelivery : m.delivery? with
  | none => exact Or.inl (Message.delivery?_eq_none_iff.mp hdelivery)
  | some d =>
    refine Or.inr ⟨d, ?_, rfl⟩
    rw [← hpassed]
    exact List.mem_filterMap.mpr ⟨m, hm, hdelivery⟩

/-- The loop takes its step. -/
theorem step_go {out : Loop × Scene} (h : x.loop.step? settings x.now x.scene = some out) :
    x.step settings .go = x.moved out := by
  rw [Shift.step, h]

/-- Whatever came of a handling, the loop goes on with the next message that decodes, unless the
flag is set. -/
theorem goes_on (h : x.Steady settings service) {outcome : Except HandleError Handled}
    (hstage : x.loop.stage = .handling (.done outcome)) (hvalue : x.scene.flag.value = false)
    {d : Delivery} (hd : x.scene.service.queue.take.1 = some d) :
    (x.run settings [.go, .go, .go]).handed = x.handed ++ [d] := by
  obtain ⟨now, scene, ⟨stage, seen⟩, brought, handed, outcomes⟩ := x
  obtain rfl : stage = .handling (.done outcome) := hstage
  have hworking : Loop.Working settings.consumer seen scene := h.fits.1
  obtain ⟨-, -, -, -, hlook⟩ := Scene.look_of_connected hworking.connected now
  dsimp only at hd hvalue
  rw [hd] at hlook
  have hlooks : Loop.step? settings now ⟨.choosing, seen⟩ scene =
      some (⟨.receiving (.done (.ok (some d))), seen⟩, (scene.look now settings.consumer).2) := by
    rw [Loop.step?_choosing h.fair.receive hvalue, hlook]
  let ended : Shift :=
    ⟨now, scene, ⟨.handling (.done outcome), seen⟩, brought, handed, outcomes⟩
  let free := ended.moved (⟨.choosing, seen⟩, scene)
  let received := free.moved
    (⟨.receiving (.done (.ok (some d))), seen⟩, (scene.look now settings.consumer).2)
  have hfree : ended.step settings .go = free := step_go rfl
  have hreceived : free.step settings .go = received := step_go hlooks
  have hpassed : (received.step settings .go).handed = received.handed ++ [d] :=
    congrArg Shift.handed (step_go rfl)
  change (((ended.step settings .go).step settings .go).step settings .go).handed = _
  rw [hfree, hreceived, hpassed]
  simp only [received, free, ended, Shift.moved, Stage.received?, Option.toList_none,
    List.append_nil]

/-- Where the store was closed it was closed last. -/
theorem store_closed_last (h : x.Steady settings service) {after before : List TraceEntry}
    {entry : TraceEntry} (htrace : x.scene.trace = after ++ entry :: before)
    (hentry : entry.operation = .closeStore) :
    after = [] ∧ ConsumerClosed before ∧ x.scene.service.consumer settings.consumer = .closed ∧
      x.loop.Idle := by
  have hmem : entry ∈ x.scene.trace := htrace ▸ List.mem_append_right _ List.mem_cons_self
  rcases h.fits.storeOpen_or_closedLast with
    hopen | ⟨hleaving, hidle, y, earlier, hlast, hopen, hclosed⟩
  · exact absurd hentry (hopen entry hmem)
  · cases after with
    | nil =>
      obtain ⟨-, rfl⟩ := List.cons.inj (htrace.symm.trans hlast)
      exact ⟨rfl, hclosed, hleaving.closed, hidle⟩
    | cons z after =>
      obtain ⟨-, hearlier⟩ := List.cons.inj (htrace.symm.trans hlast)
      have hlater : entry ∈ earlier := hearlier ▸ List.mem_append_right _ List.mem_cons_self
      exact absurd hentry (hopen entry hlater)

end Steady

/-- **The loop loses nothing.** Let a sender with a connected consumer start on a queue that was
empty once, and let everybody else do anything but receive, acknowledge or put back messages. At any
time, of the messages that were ready at the start or were brought since,

* those that decode were passed on to be handled in the order of their tags, once each, as far as
  the loop has come;
* all others, but for one that was received and is passed on next, are still ready, as they were;
* and all handlings but for one under way have come to an end.

The loop begins to stop only after the flag was written or its writing side dropped, and whatever
came of a handling, it goes on with the next message that decodes unless the flag is set. When it
has ended, what was taken was handled, or does not decode. The store is closed last, after the
consumer and when no handling is under way. -/
theorem loop_loses_nothing (settings : LoopSettings) (store : EventStore) (mode : AckMode)
    (producers consumers : List Link) (before : List Exchange.Act)
    (hopen : ((Exchange.opened mode producers consumers).run before).service.consumer
      settings.consumer = .connected) (acts : List Act) :
    let service : Service :=
      { ((Exchange.opened mode producers consumers).run before).service with store }
    let x := (start service).run settings acts
    let all := service.queue.ready ++ x.brought
    (x.handed <+: all.filterMap Message.delivery? ∧ x.handed.Pairwise fun d e => d.tag < e.tag) ∧
      (∃ taken, all = taken ++ x.scene.service.queue.ready ∧
        taken.filterMap Message.delivery? = x.handed ++ x.loop.stage.received?.toList) ∧
      x.outcomes.length + x.loop.stage.busy = x.handed.length ∧
      (¬ Asked x.scene → x.loop.stage = .choosing ∨
        (∃ receive, x.loop.stage = .receiving receive) ∨ ∃ work, x.loop.stage = .handling work) ∧
      (∀ outcome d, x.loop.stage = .handling (.done outcome) → x.scene.flag.value = false →
        x.scene.service.queue.take.1 = some d →
          (x.run settings [.go, .go, .go]).handed = x.handed ++ [d]) ∧
      (∀ result, x.loop.stage.result? = some result → x.outcomes.length = x.handed.length ∧
        ∃ taken, all = taken ++ x.scene.service.queue.ready ∧
          ∀ m ∈ taken, m.Unreadable ∨ ∃ d ∈ x.handed, m.delivery? = some d) ∧
      ∀ after entry earlier, x.scene.trace = after ++ entry :: earlier →
        entry.operation = .closeStore → after = [] ∧ ConsumerClosed earlier ∧
          x.scene.service.consumer settings.consumer = .closed ∧
          x.loop.stage.received? = none ∧ x.outcomes.length = x.handed.length := by
  intro service x all
  have horder : service.queue.InOrder :=
    (Exchange.balanced_run (MessageQueue.Ledger.balanced_empty mode) before).inOrder
  have h : x.Steady settings service := (steady_start horder hopen).run acts
  refine ⟨h.handed_begins, h.taken, h.outcomes,
    fun hasked => (h.fits.working_of_not_asked hasked).2,
    fun outcome d hstage hvalue hd => h.goes_on hstage hvalue hd, fun result hresult => ?_, ?_⟩
  · exact h.taken_handled (Loop.idle_of_result?_eq_some hresult)
  · intro after entry earlier htrace hentry
    obtain ⟨hlast, hclosed, hconsumer, hidle⟩ := h.store_closed_last htrace hentry
    exact ⟨hlast, hclosed, hconsumer, hidle.received, (h.taken_handled hidle).1⟩

/-- A reminder of an event that is not stored. -/
def stale (id : Int) : Reminder :=
  ⟨id, "", .epoch, 1⟩

/-- A queue with a message that does not decode before two that do. -/
def waiting : List Exchange.Act :=
  [.push [], .channel (.publish 0 (stale 7)), .channel (.publish 0 (stale 8))]

/-- The database fails when the first delivery is handled. The second is received at once, and while
its handling is held up one more message is published and the flag is set. -/
def interrupted : List Act :=
  [.fault .markNotified { failure := some (.database "down") }, .go, .go, .go,
    .fault .markNotified { delay := 5 }, .go, .go, .call (.channel (.publish 0 (stale 9))),
    .flag (.write true), .wait 5, .go, .go, .go, .go]

/-- Both deliveries are handled before the loop ends, and the last message stays. -/
theorem interrupted_loses_nothing :
    ((Exchange.opened .manual [.connected] [.connected]).run waiting).service.consumer 0 =
        .connected ∧
      let service : Service :=
        { ((Exchange.opened .manual [.connected] [.connected]).run waiting).service with
          store := {} }
      let x := (start service).run {} interrupted
      x.loop.stage.result? = some (.ok ()) ∧ x.handed.map Delivery.tag = [2, 3] ∧
        x.outcomes = [.error (.store 7 (.database "down")), .ok .missing] ∧
        x.scene.service.queue.ready.map Message.tag = [4] ∧
        ∃ taken, service.queue.ready ++ x.brought = taken ++ x.scene.service.queue.ready ∧
          ∀ m ∈ taken, m.Unreadable ∨ ∃ d ∈ x.handed, m.delivery? = some d := by
  have hopen : ((Exchange.opened .manual [.connected] [.connected]).run waiting).service.consumer
      0 = .connected := by
    decide +kernel
  refine ⟨hopen, ?_⟩
  intro service x
  obtain ⟨-, -, -, -, -, hended, -⟩ :=
    loop_loses_nothing {} {} .manual [.connected] [.connected] waiting hopen interrupted
  have hrun : x.loop.stage.result? = some (.ok ()) ∧ x.handed.map Delivery.tag = [2, 3] ∧
      x.outcomes = [.error (.store 7 (.database "down")), .ok .missing] ∧
      x.scene.service.queue.ready.map Message.tag = [4] := by
    decide +kernel
  exact ⟨hrun.1, hrun.2.1, hrun.2.2.1, hrun.2.2.2, (hended _ hrun.1).2⟩

end Shift

end Sender

end Datebook
