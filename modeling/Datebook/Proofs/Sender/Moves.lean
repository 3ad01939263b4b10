import Datebook.Proofs.Sender.Effects

/-!
# How the sender's loop stands, and how it moves on

As long as nobody has written the flag the loop of the sender has its consumer and leaves the store
open; once it has closed its consumer it was asked to stop, and nothing more is received. What a
step takes from the queue is passed on to be handled by the next step, as far as it decodes. All
this is so whatever delays and failures are laid on the calls of the loop, as long as its consumer
receives and closes at once.

The loop waits for a message and for news of the flag at the same time. It may see the news first,
before its receiver has looked at the queue at all, or after the receiver was called and before it
looks again.

## Main definitions

* `Datebook.Sender.Stage.received?`, `Datebook.Sender.Stage.outcome?`: what the next step passes on.
* `Datebook.Sender.Loop.Fits`: how the loop stands at each of its stages.
* `Datebook.Sender.Loop.Moves`: what the loop may make of a scene by a step.

## Main results

* `Datebook.Sender.Loop.moves_step?`, `Datebook.Sender.Loop.moves_approach`,
  `Datebook.Sender.Loop.moves_heed`: every step is one of the moves.
* `Datebook.Sender.Loop.Fits.of_others`: what others do leaves the loop where it stands.
-/

namespace Datebook

namespace Sender

namespace Stage

/-- The delivery that was received and is passed on next. -/
def received? : Stage → Option Delivery
  | .receiving (.done (.ok d)) | .collecting (.done (.ok d)) => d
  | _ => none

/-- The outcome of the handling that has ended. -/
def outcome? : Stage → Option (Except HandleError Handled)
  | .handling (.done outcome) => some outcome
  | _ => none

/-- What the loop has ended with. -/
def result? : Stage → Option (Except LoopError Unit)
  | .ended result => some result
  | _ => none

/-- The number of handlings under way. -/
def busy : Stage → Nat
  | .handling _ => 1
  | _ => 0

end Stage

/-! ### How the loop stands -/

/-- The receiver goes on without a delay of its own, or waits in line. -/
def Pending : Receive → Prop
  | .held _ failure => failure = none
  | .waiting _ => True
  | .done _ => False

/-- Somebody has written the flag, or there is nobody left to write it. -/
def Asked (s : Scene) : Prop :=
  s.flag.writes ≠ 0 ∨ s.flag.dropped = true

/-- A request is not taken back. -/
theorem asked_apply {s : Scene} (change : Flag.Change) (h : Asked s) :
    Asked { s with flag := s.flag.apply change } := by
  cases change with
  | nothing => exact h
  | drop => exact Or.inr rfl
  | write value =>
    simp only [Asked, Flag.apply, Flag.write]
    split
    · exact h
    · exact Or.inl (Nat.succ_ne_zero _)

/-- A flag that is set was written. -/
theorem written_apply {f : Flag} (change : Flag.Change) (h : f.value = true → f.writes ≠ 0) :
    (f.apply change).value = true → (f.apply change).writes ≠ 0 := by
  cases change with
  | nothing | drop => exact h
  | write value =>
    simp only [Flag.apply, Flag.write]
    split
    · exact h
    · exact fun _ => Nat.succ_ne_zero _

namespace Loop

/-- The loop has its consumer, has seen no news, and has left the store open. -/
structure Working (k seen : Nat) (s : Scene) : Prop where
  connected : s.service.consumer k = .connected
  seen_eq : seen = 0
  storeOpen : StoreOpen s.trace

/-- The loop was asked to stop and has closed its consumer. -/
structure Leaving (k : Nat) (s : Scene) : Prop where
  closed : s.service.consumer k = .closed
  asked : Asked s

/-- How the loop stands at each of its stages. -/
def Fits (k : Nat) (loop : Loop) (s : Scene) : Prop :=
  match loop.stage with
  | .choosing => Working k loop.seen s
  | .receiving receive =>
    Working k loop.seen s ∧ (Pending receive ∨ ∃ d, receive = .done (.ok (some d)))
  | .releasing work receive =>
    Leaving k s ∧ StoreOpen s.trace ∧ (∃ a, work = .done a) ∧ Pending receive
  | .collecting receive =>
    Leaving k s ∧ StoreOpen s.trace ∧ (Pending receive ∨ receive = .done (.ok none))
  | .handling work => Working k loop.seen s ∧ ∃ d, work.Makes (HandlingCall d)
  | .pausing _ => False
  | .stopping fatal work => Leaving k s ∧ fatal = none ∧ Closing work s
  | .ended _ => Leaving k s ∧ StoreClosedLast s.trace

/-- What the loop may make of a scene by a step: what it takes from the queue is passed on by the
next step, as far as it decodes. -/
structure Moves (k : Nat) (loop : Loop) (s : Scene) (out : Loop × Scene) : Prop where
  fits : out.1.Fits k out.2
  faults : out.2.faults.Sublist s.faults
  flag : out.2.flag = s.flag
  lastTag : out.2.service.queue.lastTag = s.service.queue.lastTag
  taken : ∃ taken, s.service.queue.ready = taken ++ out.2.service.queue.ready ∧
    taken.filterMap Message.delivery? = out.1.stage.received?.toList
  busy : loop.stage.outcome?.toList.length + out.1.stage.busy =
    loop.stage.busy + loop.stage.received?.toList.length

/-- On this scene the consumer receives and closes at once, and who has set the flag has written
it. -/
structure Fair (s : Scene) : Prop where
  receive : ∀ x ∈ s.faults, x.1 ≠ .receive
  closeConsumer : ∀ x ∈ s.faults, x.1 ≠ .closeConsumer
  written : s.flag.value = true → s.flag.writes ≠ 0

variable {settings : LoopSettings} {now k : Nat} {loop : Loop} {s : Scene} {receive : Receive}

theorem Working.consumer_ne {seen : Nat} (h : Working k seen s) :
    s.service.consumer k ≠ .disconnected := by
  rw [h.connected]
  decide

theorem Leaving.consumer_ne (h : Leaving k s) : s.service.consumer k ≠ .disconnected := by
  rw [h.closed]
  decide

/-- Nothing is passed on by the next step of the loop, and no handling is under way. -/
structure Idle (loop : Loop) : Prop where
  received : loop.stage.received? = none
  outcome : loop.stage.outcome? = none
  busy : loop.stage.busy = 0

/-- What was received less what has ended is under way: nothing, for a loop that is idle. -/
theorem Idle.balance (h : loop.Idle) : loop.stage.outcome?.toList.length =
    loop.stage.busy + loop.stage.received?.toList.length := by
  rw [h.outcome, h.busy, h.received]
  rfl

/-- Nothing was received yet. -/
theorem idle_of_pending {seen : Nat} (h : Pending receive) :
    Idle ⟨.receiving receive, seen⟩ ∧ Idle ⟨.collecting receive, seen⟩ := by
  cases receive with
  | done outcome => exact h.elim
  | held | waiting => exact ⟨⟨rfl, rfl, rfl⟩, ⟨rfl, rfl, rfl⟩⟩

/-- A loop that has ended has nothing left to do. -/
theorem idle_of_result?_eq_some {result : Except LoopError Unit}
    (h : loop.stage.result? = some result) : loop.Idle := by
  obtain ⟨stage, seen⟩ := loop
  cases stage with
  | ended => exact ⟨rfl, rfl, rfl⟩
  | choosing | receiving | releasing | collecting | handling | pausing | stopping =>
    simp [Stage.result?] at h

/-- The loop moves on to another stage, and leaves the scene as it is. -/
theorem moves_stay {loop' : Loop} (hfits : loop'.Fits k s)
    (hreceived : loop'.stage.received? = none)
    (hbusy : loop.stage.outcome?.toList.length + loop'.stage.busy =
      loop.stage.busy + loop.stage.received?.toList.length) : loop.Moves k s (loop', s) where
  fits := hfits
  faults := .refl _
  flag := rfl
  lastTag := rfl
  taken := ⟨[], rfl, by rw [hreceived]; rfl⟩
  busy := hbusy

/-- The store is being closed after the consumer was. -/
theorem moves_of_leftFrom {t : Scene} {work : Active (Except ShutdownError Unit)}
    (hleft : LeftFrom k s t) (hk : s.service.consumer k ≠ .disconnected) (hasked : Asked s)
    (hclosing : Closing work t) (hidle : loop.Idle) :
    loop.Moves k s ({ loop with stage := .stopping none work }, t) where
  fits := ⟨⟨hleft.consumer_eq hk, by rwa [Asked, hleft.flag]⟩, rfl, hclosing⟩
  faults := hleft.faults
  flag := hleft.flag
  lastTag := congrArg MessageQueue.lastTag hleft.queue
  taken := ⟨[], (congrArg MessageQueue.ready hleft.queue).symm, rfl⟩
  busy := hidle.balance

/-- On a request the loop begins to shut down. -/
theorem moves_stop (hfair : Fair s) (hopen : StoreOpen s.trace)
    (hk : s.service.consumer settings.consumer ≠ .disconnected) (hasked : Asked s)
    (hidle : loop.Idle) : loop.Moves settings.consumer s (loop.stop settings now none s) := by
  obtain ⟨hclosing, hleft⟩ := shutdown_advance hfair.closeConsumer hopen settings.grace now
    settings.consumer
  exact moves_of_leftFrom hleft hk hasked hclosing hidle

/-- The receiver of a loop that works looks at the queue, wherever it stood in line. -/
theorem moves_look (hworking : Working k loop.seen s) (hidle : loop.Idle) (now : Nat)
    (line : Line) :
    let out := ({ s with line } : Scene).look now k
    loop.Moves k s ({ loop with stage := .receiving out.1 }, out.2) := by
  intro out
  obtain ⟨hservice, hflag, hfaults, htrace, houtcome⟩ :=
    Scene.look_of_connected (s := { s with line }) hworking.connected now
  have hqueue : out.2.service.queue = s.service.queue.take.2 := by rw [hservice]
  have hworking' : Working k loop.seen out.2 := by
    refine ⟨?_, hworking.seen_eq, fun x hx => ?_⟩
    · rw [hservice]
      exact hworking.connected
    · rcases htrace x hx with hx | hx
      · exact hworking.storeOpen x hx
      · rw [hx]
        decide
  obtain ⟨taken, hready, hdelivered⟩ := s.service.queue.exists_taken
  refine
    { fits := ⟨hworking', ?_⟩
      faults := hfaults ▸ .refl _
      flag := hflag
      lastTag := hqueue ▸ MessageQueue.lastTag_take _
      taken := ⟨taken, hqueue ▸ hready, ?_⟩
      busy := hidle.balance }
  · rw [houtcome]
    cases s.service.queue.take.1 with
    | none => exact Or.inl trivial
    | some d => exact Or.inr ⟨d, rfl⟩
  · rw [hdelivered, houtcome]
    cases s.service.queue.take.1 <;> rfl

/-- The receiver of a loop that leaves finds its consumer closed. -/
theorem moves_look_closed (hleaving : Leaving k s) (hopen : StoreOpen s.trace) (hidle : loop.Idle)
    (now : Nat) (line : Line) :
    let out := ({ s with line } : Scene).look now k
    loop.Moves k s ({ loop with stage := .collecting out.1 }, out.2) := by
  intro out
  have hout : out =
      (.done (.ok none), ({ s with line } : Scene).record now .receive (.received none)) :=
    Scene.look_of_closed (s := { s with line }) hleaving.closed now
  have hopen' : StoreOpen (({ s with line } : Scene).record now .receive (.received none)).trace :=
    List.forall_mem_cons.mpr ⟨by simp, hopen⟩
  rw [hout]
  exact
    { fits := ⟨⟨hleaving.closed, hleaving.asked⟩, hopen', Or.inr rfl⟩
      faults := .refl _
      flag := rfl
      lastTag := rfl
      taken := ⟨[], rfl, rfl⟩
      busy := hidle.balance }

/-- On news of the flag the loop closes its consumer, while its receiver is still pending. -/
theorem moves_release (hworking : Working settings.consumer loop.seen s) (hfair : Fair s)
    (hnews : loop.hasNews s = true) (hreceive : Pending receive) (hidle : loop.Idle) :
    loop.Moves settings.consumer s (loop.release settings now receive s) := by
  have hasked : Asked s := by
    rw [hasNews, Flag.hasNews, hworking.seen_eq, Bool.or_eq_true, bne_iff_ne] at hnews
    exact hnews
  have hleft := leftFrom_consumerClosed s now settings.consumer
  rw [release, closeConsumer_advance hfair.closeConsumer]
  exact
    { fits := ⟨⟨hleft.consumer_eq hworking.consumer_ne, hasked⟩,
        (storeOpen_consumerClosed hworking.storeOpen now settings.consumer).1, ⟨_, rfl⟩, hreceive⟩
      faults := .refl _
      flag := rfl
      lastTag := rfl
      taken := ⟨[], rfl, rfl⟩
      busy := hidle.balance }

/-- What handling a delivery leaves as it is keeps a loop at work. -/
theorem Working.of_handledFrom {t : Scene} (h : Working k loop.seen s) (ht : HandledFrom s t) :
    Working k loop.seen t where
  connected := by
    rw [Service.consumer, ht.consumers]
    exact h.connected
  seen_eq := h.seen_eq
  storeOpen x hx := (ht.trace x hx).elim (h.storeOpen x) id

/-- A delivery is being handled. -/
theorem moves_of_handledFrom {t : Scene} {work : Active (Except HandleError Handled)} {d : Delivery}
    (hworking : Working k loop.seen s) (hhandled : HandledFrom s t)
    (hmakes : work.Makes (HandlingCall d))
    (hbusy : loop.stage.outcome?.toList.length + 1 =
      loop.stage.busy + loop.stage.received?.toList.length) :
    loop.Moves k s ({ loop with stage := .handling work }, t) where
  fits := ⟨hworking.of_handledFrom hhandled, d, hmakes⟩
  faults := hhandled.faults
  flag := hhandled.flag
  lastTag := hhandled.lastTag
  taken := ⟨[], hhandled.ready.symm, rfl⟩
  busy := hbusy

/-- A delivery that was received is handled. -/
theorem moves_handle (hworking : Working settings.consumer loop.seen s) {d : Delivery}
    (hstage : loop.stage = .receiving (.done (.ok (some d)))) :
    loop.Moves settings.consumer s (loop.take settings now (.ok (some d)) s) := by
  obtain ⟨hmakes, hhandled⟩ :=
    handle_advance s.service.queue.mode settings.consumer d now s
  exact moves_of_handledFrom hworking hhandled hmakes (by rw [hstage]; rfl)

/-- A receiver that is pending looks again when it is seen to. -/
theorem exists_line_of_poll? {out : Receive × Scene} (hreceive : Pending receive)
    (h : receive.poll? now k s = some out) :
    ∃ line, out = ({ s with line } : Scene).look now k := by
  cases receive with
  | done outcome => exact hreceive.elim
  | held due failure =>
    obtain rfl : failure = none := hreceive
    simp only [Receive.poll?, Option.ite_none_right_eq_some, Option.some.injEq] at h
    exact ⟨s.line, h.2.symm⟩
  | waiting ticket =>
    simp only [Receive.poll?, Option.ite_none_right_eq_some, Option.some.injEq] at h
    exact ⟨_, h.2.symm⟩

/-- While the flag is not set the loop receives, and looks at the queue at once. -/
theorem step?_choosing (hreceive : ∀ x ∈ s.faults, x.1 ≠ .receive) (hvalue : s.flag.value = false)
    (seen : Nat) :
    step? settings now ⟨.choosing, seen⟩ s =
      some (⟨.receiving (s.look now settings.consumer).1, seen⟩,
        (s.look now settings.consumer).2) := by
  simp only [step?, hvalue, Scene.startReceive, Scene.takeFault_of_forall_ne hreceive]
  rfl

/-- While nothing was received, the receiver is seen to before the flag. -/
theorem step?_receiving (hreceive : Pending receive) (seen : Nat) :
    step? settings now ⟨.receiving receive, seen⟩ s =
      match receive.poll? now settings.consumer s with
      | some out => some (⟨.receiving out.1, seen⟩, out.2)
      | none =>
        if hasNews ⟨.receiving receive, seen⟩ s then
          some (release settings now receive ⟨.receiving receive, seen⟩ s)
        else none := by
  cases receive with
  | done outcome => exact hreceive.elim
  | held due failure =>
    simp only [step?]
    cases Receive.poll? now settings.consumer (.held due failure) s <;> rfl
  | waiting ticket =>
    simp only [step?]
    cases Receive.poll? now settings.consumer (.waiting ticket) s <;> rfl

theorem step?_collecting (hreceive : Pending receive) (seen : Nat) :
    step? settings now ⟨.collecting receive, seen⟩ s =
      (receive.poll? now settings.consumer s).map fun out =>
        (⟨.collecting out.1, seen⟩, out.2) := by
  cases receive with
  | done outcome => exact hreceive.elim
  | held | waiting => rfl

/-- Every step is one of the moves. -/
theorem moves_step? (hfits : loop.Fits settings.consumer s) (hfair : Fair s) {out : Loop × Scene}
    (hstep : loop.step? settings now s = some out) : loop.Moves settings.consumer s out := by
  obtain ⟨stage, seen⟩ := loop
  cases stage with
  | choosing =>
    have hworking : Working settings.consumer seen s := hfits
    have hidle : Idle ⟨.choosing, seen⟩ := ⟨rfl, rfl, rfl⟩
    cases hvalue : s.flag.value with
    | true =>
      simp only [step?, hvalue, if_true] at hstep
      obtain rfl := Option.some.inj hstep
      exact moves_stop hfair hworking.storeOpen hworking.consumer_ne
        (Or.inl (hfair.written hvalue)) hidle
    | false =>
      rw [step?_choosing hfair.receive hvalue] at hstep
      obtain rfl := Option.some.inj hstep
      exact moves_look hworking hidle now s.line
  | receiving receive =>
    obtain ⟨hworking, hreceive | ⟨d, rfl⟩⟩ := hfits
    · have hidle : Idle ⟨.receiving receive, seen⟩ := (idle_of_pending hreceive).1
      rw [step?_receiving hreceive] at hstep
      split at hstep
      · next polled hpolled =>
        obtain rfl := Option.some.inj hstep
        obtain ⟨line, rfl⟩ := exists_line_of_poll? hreceive hpolled
        exact moves_look hworking hidle now line
      · split at hstep
        · next hnews =>
          obtain rfl := Option.some.inj hstep
          exact moves_release hworking hfair hnews hreceive hidle
        · simp at hstep
    · obtain rfl := Option.some.inj hstep
      exact moves_handle hworking rfl
  | releasing work receive =>
    obtain ⟨hleaving, hopen, ⟨a, rfl⟩, hreceive⟩ := hfits
    obtain rfl := Option.some.inj hstep
    exact moves_stay ⟨hleaving, hopen, Or.inl hreceive⟩ (idle_of_pending hreceive).2.received rfl
  | collecting receive =>
    obtain ⟨hleaving, hopen, hreceive | rfl⟩ := hfits
    · have hidle : Idle ⟨.collecting receive, seen⟩ := (idle_of_pending hreceive).2
      rw [step?_collecting hreceive, Option.map_eq_some_iff] at hstep
      obtain ⟨polled, hpolled, rfl⟩ := hstep
      obtain ⟨line, rfl⟩ := exists_line_of_poll? hreceive hpolled
      exact moves_look_closed hleaving hopen hidle now line
    · obtain rfl := Option.some.inj hstep
      exact moves_stop hfair hopen hleaving.consumer_ne hleaving.asked ⟨rfl, rfl, rfl⟩
  | handling work =>
    obtain ⟨hworking, d, hmakes⟩ := hfits
    cases work with
    | done outcome =>
      obtain rfl := Option.some.inj hstep
      exact moves_stay hworking rfl rfl
    | held c failure due cut next =>
      simp only [step?, Option.map_eq_some_iff] at hstep
      obtain ⟨⟨work', t⟩, hresume, rfl⟩ := hstep
      obtain ⟨hmakes', hhandled⟩ :=
        hmakes.resume (stable_handledFrom d now s) (.refl s) hresume
      exact moves_of_handledFrom hworking hhandled hmakes' rfl
  | pausing wakeAt => exact hfits.elim
  | stopping fatal work =>
    obtain ⟨hleaving, rfl, hclosing⟩ := hfits
    cases work with
    | done closed =>
      obtain rfl := Option.some.inj hstep
      exact moves_stay ⟨hleaving, hclosing⟩ rfl rfl
    | held c failure due cut next =>
      simp only [step?, Option.map_eq_some_iff] at hstep
      obtain ⟨⟨work', t⟩, hresume, rfl⟩ := hstep
      obtain ⟨hclosing', hleft⟩ := hclosing.resume (leftFrom_refl hleaving.closed) hresume
      exact moves_of_leftFrom hleft hleaving.consumer_ne hleaving.asked hclosing' ⟨rfl, rfl, rfl⟩
  | ended result => simp [step?] at hstep

/-- The loop begins to receive, and its receiver has not looked yet. -/
theorem moves_approach (hstage : loop.stage = .choosing) (hfits : loop.Fits k s) :
    loop.Moves k s ({ loop with stage := .receiving (.held now none) }, s) := by
  obtain ⟨stage, seen⟩ := loop
  obtain rfl : stage = .choosing := hstage
  exact moves_stay ⟨hfits, Or.inl rfl⟩ rfl rfl

/-- The loop heeds the flag before its receiver looks. -/
theorem moves_heed (hstage : loop.stage = .receiving receive)
    (hreceive : ∀ outcome, receive ≠ .done outcome) (hfits : loop.Fits settings.consumer s)
    (hfair : Fair s) (hnews : loop.hasNews s = true) :
    loop.Moves settings.consumer s (loop.release settings now receive s) := by
  obtain ⟨stage, seen⟩ := loop
  obtain rfl : stage = .receiving receive := hstage
  obtain ⟨hworking, hpending | ⟨d, hdone⟩⟩ := hfits
  · exact moves_release hworking hfair hnews hpending (idle_of_pending hpending).1
  · exact absurd hdone (hreceive _)

/-- What others do leaves the loop where it stands, as long as they keep off its consumer, and
neither take back a request nor note calls in its name. -/
theorem Fits.of_others {t : Scene} (h : loop.Fits k s)
    (hconsumer : t.service.consumer k = s.service.consumer k) (hasked : Asked s → Asked t)
    (htrace : t.trace = s.trace) : loop.Fits k t := by
  obtain ⟨stage, seen⟩ := loop
  have hworking (hw : Working k seen s) : Working k seen t :=
    ⟨hconsumer.trans hw.connected, hw.seen_eq, htrace ▸ hw.storeOpen⟩
  have hleaving (hl : Leaving k s) : Leaving k t :=
    ⟨hconsumer.trans hl.closed, hasked hl.asked⟩
  cases stage with
  | choosing => exact hworking h
  | receiving receive => exact ⟨hworking h.1, h.2⟩
  | releasing work receive => exact ⟨hleaving h.1, htrace ▸ h.2.1, h.2.2⟩
  | collecting receive => exact ⟨hleaving h.1, htrace ▸ h.2.1, h.2.2⟩
  | handling work => exact ⟨hworking h.1, h.2⟩
  | pausing wakeAt => exact h.elim
  | stopping fatal work =>
    obtain ⟨hl, hfatal, hclosing⟩ := h
    refine ⟨hleaving hl, hfatal, ?_⟩
    cases work with
    | done a =>
      have hlast : StoreClosedLast s.trace := hclosing
      rw [← htrace] at hlast
      exact hlast
    | held c failure due cut next =>
      obtain ⟨hc, hnext, hcut, hopen, hclosed⟩ := hclosing
      exact ⟨hc, hnext, hcut, htrace ▸ hopen, htrace ▸ hclosed⟩
  | ended result => exact ⟨hleaving h.1, htrace ▸ h.2⟩

/-- A loop that was not asked to stop is at work. -/
theorem Fits.working_of_not_asked (h : loop.Fits k s) (hasked : ¬ Asked s) :
    Working k loop.seen s ∧ (loop.stage = .choosing ∨
      (∃ receive, loop.stage = .receiving receive) ∨ ∃ work, loop.stage = .handling work) := by
  obtain ⟨stage, seen⟩ := loop
  cases stage with
  | choosing => exact ⟨h, Or.inl rfl⟩
  | receiving receive => exact ⟨h.1, Or.inr (Or.inl ⟨receive, rfl⟩)⟩
  | handling work => exact ⟨h.1, Or.inr (Or.inr ⟨work, rfl⟩)⟩
  | pausing wakeAt => exact h.elim
  | releasing | collecting | stopping | ended => exact absurd h.1.asked hasked

/-- The store was left open, or the loop has nothing left to do but to end: it has closed its
consumer and then the store. -/
theorem Fits.storeOpen_or_closedLast (h : loop.Fits k s) :
    StoreOpen s.trace ∨ Leaving k s ∧ loop.Idle ∧
      ∃ x before, s.trace = x :: before ∧ StoreOpen before ∧ ConsumerClosed before := by
  obtain ⟨stage, seen⟩ := loop
  cases stage with
  | choosing => exact Or.inl h.storeOpen
  | receiving => exact Or.inl h.1.storeOpen
  | handling => exact Or.inl h.1.storeOpen
  | releasing | collecting => exact Or.inl h.2.1
  | pausing => exact h.elim
  | stopping fatal work =>
    obtain ⟨hleaving, -, hclosing⟩ := h
    cases work with
    | done a => exact hclosing.imp_right fun hlast => ⟨hleaving, ⟨rfl, rfl, rfl⟩, hlast⟩
    | held => exact Or.inl hclosing.2.2.2.1
  | ended result => exact h.2.imp_right fun hlast => ⟨h.1, ⟨rfl, rfl, rfl⟩, hlast⟩

end Loop

end Sender

end Datebook
