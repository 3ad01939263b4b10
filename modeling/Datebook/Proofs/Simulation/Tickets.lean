import Datebook.Proofs.Service.Answers
import Datebook.Proofs.Simulation.Advance

/-!
# Tickets

Who finds no message waits in line with a ticket of its own. A place in line is kept by all that
anybody else does: its holder waits on or is called, and once called remains so until it looks.
Nobody is called by a ticket that was not handed out yet.

## Main definitions

* `Datebook.Line.Keeps`: one line keeps the place that goes with a ticket in another.
* `Datebook.Line.Issued`: all tickets in a line were handed out.
* `Datebook.Scene.Places`, `Datebook.Scene.Seats`: the holder of a ticket can be called or was.

## Main results

* `Datebook.Line.keeps_rouse`, `Datebook.Scene.Places.of_keeps`
* `Datebook.Scene.look_cases`, `Datebook.Scene.seats_look`
* `Datebook.Routine.issued_advance`
-/

namespace Datebook

/-! ### Places in line -/

namespace Line

variable {l l' : Line} {ticket : Nat}

/-- The holder of a ticket who waits in the one line still does in the other or was called, and who
was called still is. -/
structure Keeps (l l' : Line) (ticket : Nat) : Prop where
  waiting : ticket ∈ l.waiting → ticket ∈ l'.waiting ∨ ticket ∈ l'.called
  called : ticket ∈ l.called → ticket ∈ l'.called

instance : Decidable (l.Keeps l' ticket) :=
  decidable_of_iff ((ticket ∈ l.waiting → ticket ∈ l'.waiting ∨ ticket ∈ l'.called) ∧
    (ticket ∈ l.called → ticket ∈ l'.called)) ⟨fun h => ⟨h.1, h.2⟩, fun h => ⟨h.waiting, h.called⟩⟩

theorem Keeps.refl (l : Line) (ticket : Nat) : l.Keeps l ticket :=
  ⟨Or.inl, id⟩

theorem Keeps.trans {m n : Line} (h : l.Keeps m ticket) (h' : m.Keeps n ticket) :
    l.Keeps n ticket :=
  ⟨fun hw => (h.waiting hw).elim h'.waiting fun hc => Or.inr (h'.called hc),
    fun hc => h'.called (h.called hc)⟩

theorem keeps_join (l : Line) (ticket : Nat) : l.Keeps l.join.2 ticket :=
  ⟨fun hw => Or.inl (List.mem_append_left _ hw), id⟩

theorem keeps_callFirst (l : Line) (ticket : Nat) : l.Keeps l.callFirst ticket := by
  rw [callFirst]
  split
  · exact .refl _ _
  · next first rest hline =>
    refine ⟨fun hw => ?_, fun hc => List.mem_append_left _ hc⟩
    rw [hline] at hw
    rcases List.mem_cons.mp hw with rfl | hw
    · exact Or.inr (List.mem_append_right _ List.mem_cons_self)
    · exact Or.inl hw

theorem nextTicket_callFirst (l : Line) : l.callFirst.nextTicket = l.nextTicket := by
  rw [callFirst]
  split <;> rfl

theorem keeps_callAll (l : Line) (ticket : Nat) : l.Keeps l.callAll ticket :=
  ⟨fun hw => Or.inr (List.mem_append_right _ hw), fun hc => List.mem_append_left _ hc⟩

/-- Who was called and looks again gives up no place but its own. -/
theorem keeps_answer (l : Line) {other : Nat} (hne : ticket ≠ other) :
    l.Keeps (l.answer other) ticket :=
  ⟨Or.inl, fun hc => (List.mem_erase_of_ne hne).mpr hc⟩

/-- A call that succeeds takes no place away. -/
theorem keeps_rouse (c : Call) (l : Line) (ticket : Nat) : l.Keeps (c.rouse l) ticket := by
  match c with
  | .channel (.publish _ _) => exact l.keeps_callFirst ticket
  | .channel (.closeConsumer _) => exact l.keeps_callAll ticket
  | .store _ | .channel (.connectProducer _) | .channel (.closeProducer _)
  | .channel (.connectConsumer _) | .channel (.ack _ _) => exact .refl _ _

/-- Nobody is given a ticket by a call. -/
theorem nextTicket_rouse (c : Call) (l : Line) : (c.rouse l).nextTicket = l.nextTicket := by
  match c with
  | .channel (.publish _ _) => exact l.nextTicket_callFirst
  | .channel (.closeConsumer _) | .store _ | .channel (.connectProducer _)
  | .channel (.closeProducer _) | .channel (.connectConsumer _) | .channel (.ack _ _) => rfl

/-! ### Tickets that were handed out -/

/-- Every ticket in line was handed out. -/
def Issued (l : Line) : Prop :=
  ∀ ticket ∈ l.waiting ++ l.called, ticket < l.nextTicket

instance (l : Line) : Decidable l.Issued :=
  inferInstanceAs (Decidable (∀ _ ∈ _, _))

theorem Issued.of_subset (h : l.Issued) (hnext : l'.nextTicket = l.nextTicket)
    (hsub : l'.waiting ++ l'.called ⊆ l.waiting ++ l.called) : l'.Issued :=
  fun ticket hticket => hnext ▸ h ticket (hsub hticket)

/-- Nobody was called by the ticket that is handed out next. -/
theorem Issued.notMem_called (h : l.Issued) : l.nextTicket ∉ l.called :=
  fun hcalled => Nat.lt_irrefl _ (h _ (List.mem_append_right _ hcalled))

theorem Issued.join (h : l.Issued) : l.join.2.Issued := by
  intro ticket hticket
  rcases List.mem_append.mp hticket with hwaiting | hcalled
  · rcases List.mem_append.mp hwaiting with hwaiting | hnew
    · exact Nat.lt_succ_of_lt (h ticket (List.mem_append_left _ hwaiting))
    · rw [List.mem_singleton.mp hnew]
      exact Nat.lt_succ_self _
  · exact Nat.lt_succ_of_lt (h ticket (List.mem_append_right _ hcalled))

theorem Issued.answer (h : l.Issued) (ticket : Nat) : (l.answer ticket).Issued :=
  h.of_subset rfl (List.append_subset.mpr ⟨List.subset_append_left _ _,
    fun _ hcalled => List.mem_append_right _ (List.mem_of_mem_erase hcalled)⟩)

theorem Issued.callFirst (h : l.Issued) : l.callFirst.Issued := by
  refine h.of_subset l.nextTicket_callFirst fun ticket hticket => ?_
  rw [Line.callFirst] at hticket
  split at hticket
  · exact hticket
  · next first rest hline =>
    rw [hline]
    simp only [List.mem_append, List.mem_cons, List.not_mem_nil, or_false] at hticket ⊢
    tauto

theorem Issued.callAll (h : l.Issued) : l.callAll.Issued :=
  h.of_subset rfl (List.append_subset.mpr ⟨List.nil_subset _,
    List.append_subset.mpr ⟨List.subset_append_right _ _, List.subset_append_left _ _⟩⟩)

/-- Nobody is given a ticket by a call. -/
theorem Issued.rouse (h : l.Issued) (c : Call) : (c.rouse l).Issued := by
  match c with
  | .channel (.publish _ _) => exact h.callFirst
  | .channel (.closeConsumer _) => exact h.callAll
  | .store _ | .channel (.connectProducer _) | .channel (.closeProducer _)
  | .channel (.connectConsumer _) | .channel (.ack _ _) => exact h

end Line

/-- To receive leaves all handles as they are. -/
theorem Service.consumer_receive? (s : Service) (k l : Nat) :
    (s.receive? k).2.consumer l = s.consumer l := by
  rcases s.receive?_cases k with ⟨hsame, -⟩ | ⟨htake, -⟩
  · rw [hsame]
  · rw [htake]
    rfl

namespace Scene

/-- A consumer that looks for a message is done with what it receives, or waits at the end of the
line, which only one that is connected does. -/
theorem look_cases (s : Scene) (now k : Nat) :
    (s.look now k).2.service = (s.service.receive? k).2 ∧
      (s.look now k).2.faults = s.faults ∧
      ((∃ outcome, (s.service.receive? k).1 = some outcome ∧ (s.look now k).1 = .done outcome ∧
          (s.look now k).2.line = s.line) ∨
        s.service.consumer k = .connected ∧ (s.look now k).1 = .waiting s.line.nextTicket ∧
          (s.look now k).2.line = s.line.join.2) := by
  rw [look]
  cases hreceive : s.service.receive? k with
  | mk receipt service =>
    cases receipt with
    | some outcome => exact ⟨rfl, rfl, Or.inl ⟨outcome, rfl, rfl, rfl⟩⟩
    | none =>
      refine ⟨rfl, rfl, Or.inr ⟨?_, rfl, rfl⟩⟩
      cases hlink : s.service.consumer k with
      | connected => rfl
      | disconnected | closed => simp [Service.receive?, hlink] at hreceive

/-- A call that is finished calls those in line whom it concerns, or nobody. -/
theorem line_finish_cases (s : Scene) (now : Nat) (c : Call) (failure : Option FaultKind) :
    (s.finish now c failure).2.line = s.line ∨
      (s.finish now c failure).2.line = c.rouse s.line := by
  cases failure with
  | some kind => exact Or.inl rfl
  | none =>
    rw [finish]
    dsimp only [record]
    split
    · exact Or.inr rfl
    · exact Or.inl rfl

/-- No call of a routine hands out a ticket. -/
theorem stable_issued (now : Nat) : Stable (fun _ => True) now fun t => t.line.Issued where
  takeFault t op h := by
    obtain ⟨faults, -, heq⟩ := t.exists_takeFault_eq op
    rw [heq]
    exact h
  finish t c failure _ h := by
    rcases t.line_finish_cases now c failure with hline | hline
    · exact hline ▸ h
    · exact hline ▸ h.rouse c
  enter _ _ h := h

end Scene

section Routines

variable {α : Type} {now : Nat} {s t : Scene}

theorem Routine.issued_advance (r : Routine α) (h : s.line.Issued) :
    (r.advance now s).2.line.Issued :=
  (r.makes_true.advance (Scene.stable_issued now) h).2

theorem Active.issued_resume? {work work' : Active α} (h : s.line.Issued)
    (hresume : work.resume? now s = some (work', t)) : t.line.Issued :=
  (work.makes_true.resume (Scene.stable_issued now) h hresume).2

end Routines

/-! ### Receivers and their tickets -/

/-- The holder of a ticket is in line or was called; if not called, the consumer is connected. -/
def Scene.Places (s : Scene) (consumer ticket : Nat) : Prop :=
  ticket ∈ s.line.waiting ∧ s.service.consumer consumer = .connected ∨
    ticket ∈ s.line.called ∧ s.service.consumer consumer ≠ .disconnected

/-- A place is kept by what takes no ticket away and disconnects nobody, if consumers are closed
only when nobody remains in line. -/
theorem Scene.Places.of_keeps {s t : Scene} {k ticket : Nat} (h : s.Places k ticket)
    (hkeeps : s.line.Keeps t.line ticket)
    (hlink : s.service.consumer k ≠ .disconnected → t.service.consumer k ≠ .disconnected)
    (hopen : t.line.waiting ≠ [] → s.service.consumer k = .connected →
      t.service.consumer k = .connected) : t.Places k ticket := by
  rcases h with ⟨hwaiting, hconnected⟩ | ⟨hcalled, hne⟩
  · rcases hkeeps.waiting hwaiting with hwaiting | hcalled
    · exact Or.inl ⟨hwaiting, hopen (List.ne_nil_of_mem hwaiting) hconnected⟩
    · exact Or.inr ⟨hcalled, hlink (by rw [hconnected]; decide)⟩
  · exact Or.inr ⟨hkeeps.called hcalled, hlink hne⟩

/-- The ticket that a receiver waits with. -/
def Receive.ticket? : Receive → Option Nat
  | .waiting ticket => some ticket
  | .held _ _ | .done _ => none

namespace Scene

/-- The tickets in line were handed out, and the holder of one that is waited with can be called or
was. -/
structure Seats (s : Scene) (k : Nat) (ticket? : Option Nat) : Prop where
  issued : s.line.Issued
  places : ∀ ticket, ticket? = some ticket → s.Places k ticket

section Seats

variable {s : Scene} {k : Nat}

theorem seats_none (h : s.line.Issued) : s.Seats k none :=
  ⟨h, nofun⟩

/-- A receiver that has looked and waits has the last place in line. -/
theorem seats_look (h : s.line.Issued) (now k : Nat) :
    (s.look now k).2.Seats k (s.look now k).1.ticket? := by
  obtain ⟨hservice, -, houtcome⟩ := s.look_cases now k
  have hlink : (s.look now k).2.service.consumer k = s.service.consumer k := by
    rw [hservice, Service.consumer_receive?]
  rcases houtcome with ⟨outcome, -, hdone, hline⟩ | ⟨hconnected, hwaiting, hline⟩
  · rw [hdone]
    exact seats_none (hline ▸ h)
  · rw [hwaiting]
    refine ⟨hline ▸ h.join, ?_⟩
    rintro ticket ⟨⟩
    refine Or.inl ⟨?_, hlink.trans hconnected⟩
    rw [hline]
    exact List.mem_append_right _ (List.mem_singleton_self _)

end Seats

end Scene

end Datebook
