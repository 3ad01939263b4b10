import Datebook.Proofs.EventStore.Renaming
import Mathlib.Data.List.Find
import Mathlib.Data.List.Induction

/-!
# No user notices another

Users share one store, one sequence of ids and its purges. Still, what a user gets to see is what
the user would see alone: leave out of a run every call that is for someone else, and the calls that
remain give the same replies under renamed ids, purges apart, which count the events of all users.

The proof follows the store that the user would have alone through the run. It is read off the
shared store: the user's events, renamed, and as last id the number of the user's ids so far. A call
of the user does to it what it does to the shared store, and a call of another user leaves it as it
is. That the latter holds for changes rests on the register: an event stays with the user its id was
given to.

## Main definitions

* `Datebook.EventStore.alone`: the store that a user would have alone.

## Main results

* `Datebook.EventStore.Owned.alone_answer`,
  `Datebook.EventStore.Owned.alone_answer_of_not_concerns`: one call.
* `Datebook.EventStore.alone_run`: a run.
* `Datebook.EventStore.user_sees_own_run`
-/

namespace Datebook

namespace EventStore

variable {s : EventStore} {r : Register} {userId : Int}

/-! ### The store of one user -/

/-- The store that a user would have alone. -/
def alone (s : EventStore) (r : Register) (userId : Int) : EventStore where
  events := (s.ofUser userId).map (·.renamed (r.rank userId))
  lastId := r.rank userId s.lastId

theorem alone_empty : ({} : EventStore).alone r userId = {} := by
  rw [alone, Register.rank_zero]
  rfl

/-- Alone, a user is the only one there is. -/
theorem ofUser_alone : (s.alone r userId).ofUser userId = (s.alone r userId).events := by
  refine List.filter_eq_self.mpr fun e he => ?_
  obtain ⟨a, ha, rfl⟩ := List.mem_map.mp he
  exact (List.mem_filter.mp ha).2

namespace Owned

variable (h : s.Owned r)
include h

/-- An event of the user carries an id of the user. -/
theorem mem_idsOf_of_mem_ofUser {e : Event} (he : e ∈ s.ofUser userId) :
    e.id ∈ r.idsOf userId := by
  obtain ⟨hmem, huser⟩ := List.mem_filter.mp he
  exact (h.mem_idsOf_iff hmem).mpr (beq_iff_eq.mp huser)

/-- Alone, the user finds the events that the user has. -/
theorem find?_alone {id : Int} (hid : id ∈ r.idsOf userId) :
    (s.alone r userId).find? (r.rank userId id) =
      (s.find? id).map (·.renamed (r.rank userId)) := by
  have hname : (s.ofUser userId).find? (fun e => r.rank userId e.id == r.rank userId id) =
      (s.ofUser userId).find? (·.id == id) := by
    refine List.find?_congr fun e he => ?_
    have hmem := h.mem_idsOf_of_mem_ofUser he
    rw [Bool.eq_iff_iff, beq_iff_eq, beq_iff_eq, Register.rank_eq_iff (Or.inr hmem) hid]
  have howner : (s.ofUser userId).find? (·.id == id) = s.find? id := by
    rw [ofUser, List.find?_filter]
    refine List.find?_congr fun e he => ?_
    rw [Bool.eq_iff_iff]
    simp only [beq_iff_eq, decide_eq_true_eq, and_iff_right_iff_imp]
    rintro rfl
    exact (h.mem_idsOf_iff he).mp hid
  rw [find?, alone, List.find?_map, ← howner, ← hname]
  rfl

theorem get_alone {id : Int} (hid : id ∈ r.idsOf userId) :
    (s.alone r userId).get (r.rank userId id) =
      renameResult (r.rank userId) (·.renamed (r.rank userId)) (s.get id) := by
  rw [get, get, h.find?_alone hid]
  cases s.find? id <;> rfl

/-- Alone, the user is as free as among others, and the same event is in the way. -/
theorem checkFree_alone {exclude : Int} (hexclude : exclude = 0 ∨ exclude ∈ r.idsOf userId)
    (span : Span) :
    (s.alone r userId).checkFree (r.rank userId exclude) userId span =
      renameResult (r.rank userId) id (s.checkFree exclude userId span) := by
  have hconflict : (s.alone r userId).conflict? (r.rank userId exclude) userId span =
      (s.conflict? exclude userId span).map (·.renamed (r.rank userId)) := by
    rw [conflict?, ofUser_alone, alone, List.find?_map, conflict?]
    refine congrArg _ (List.find?_congr fun e he => ?_)
    have hmem := h.mem_idsOf_of_mem_ofUser he
    have hne : (r.rank userId e.id != r.rank userId exclude) = (e.id != exclude) := by
      rw [Bool.eq_iff_iff, bne_iff_ne, bne_iff_ne, ne_comm, ne_eq,
        Register.rank_eq_iff hexclude hmem, ← ne_eq, ne_comm]
    change (r.rank userId e.id != r.rank userId exclude && e.span.meets span) = _
    rw [hne]
  rw [checkFree, checkFree, hconflict]
  cases s.conflict? exclude userId span <;> rfl

end Owned

/-! ### Changes -/

/-- An event that the user adds is added to the user's own store. -/
theorem alone_added {e : Event} (hgives : r.Gives (s.lastId + 1) e.userId) :
    (s.added e).alone r e.userId = (s.alone r e.userId).added e := by
  have hlast : r.rank e.userId (s.lastId + 1) = r.rank e.userId s.lastId + 1 :=
    Register.rank_succ_of_mem (Register.mem_idsOf_iff.mpr hgives)
  have hevents : (s.added e).ofUser e.userId =
      s.ofUser e.userId ++ [{ e with id := s.lastId + 1, notified := false }] := by
    rw [ofUser, added, List.filter_append, List.filter_cons_of_pos (by simp), List.filter_nil]
    rfl
  rw [alone, hevents, List.map_append, List.map_singleton]
  simp only [added, alone, Event.renamed, hlast]

/-- An event that another user adds is not seen. -/
theorem alone_added_of_ne {e : Event} (hgives : r.Gives (s.lastId + 1) e.userId)
    (hne : e.userId ≠ userId) : (s.added e).alone r userId = s.alone r userId := by
  have hlast : r.rank userId (s.lastId + 1) = r.rank userId s.lastId :=
    Register.rank_succ_of_notMem fun hmem =>
      hne (Register.user_eq hgives (Register.mem_idsOf_iff.mp hmem))
  have hevents : (s.added e).ofUser userId = s.ofUser userId := by
    rw [ofUser, added, List.filter_append, List.filter_cons_of_neg (by simpa using hne),
      List.filter_nil, List.append_nil, ofUser]
  rw [alone, hevents, added, hlast, alone]

/-- Where events are exchanged for others of the same users, so are those of each user. -/
theorem alone_exchange {f g : Event → Event} (hf : ∀ e ∈ s.events, (f e).userId = e.userId)
    (hg : ∀ e ∈ s.ofUser userId,
      g (e.renamed (r.rank userId)) = (f e).renamed (r.rank userId)) :
    ({ s with events := s.events.map f } : EventStore).alone r userId =
      { s.alone r userId with events := (s.alone r userId).events.map g } := by
  have hevents : (s.events.map f).filter (·.userId == userId) = (s.ofUser userId).map f := by
    rw [List.filter_map, ofUser]
    refine congrArg _ (List.filter_congr fun e he => ?_)
    exact congrArg (· == userId) (hf e he)
  have hevents' : ((s.ofUser userId).map f).map (·.renamed (r.rank userId)) =
      ((s.ofUser userId).map (·.renamed (r.rank userId))).map g := by
    rw [List.map_map, List.map_map]
    exact List.map_congr_left fun e he => (hg e he).symm
  rw [alone, ofUser, hevents, hevents', alone]

/-- Where events are taken out of the store, so are those of each user. -/
theorem alone_kept {keep keep' : Event → Bool}
    (h : ∀ e ∈ s.ofUser userId, keep' (e.renamed (r.rank userId)) = keep e) :
    (s.kept keep).alone r userId = (s.alone r userId).kept keep' := by
  have hevents : (s.kept keep).ofUser userId = (s.ofUser userId).filter keep := by
    rw [ofUser, kept, List.filter_filter, ofUser, List.filter_filter]
    exact List.filter_congr fun e _ => Bool.and_comm _ _
  rw [alone, hevents, kept, kept, alone, List.filter_map]
  congr 2
  exact (List.filter_congr h).symm

/-- Nothing is seen of what is taken out from among the events of others. -/
theorem alone_kept_of_keeps {keep : Event → Bool} (h : ∀ e ∈ s.ofUser userId, keep e = true) :
    (s.kept keep).alone r userId = s.alone r userId := by
  have hkept : (s.kept keep).alone r userId = (s.alone r userId).kept fun _ => true :=
    alone_kept fun e he => (h e he).symm
  rw [hkept, kept, List.filter_true]

namespace Owned

variable (h : s.Owned r)
include h

theorem alone_replaced {old e : Event} (hkeeps : (StoreCall.update e).keepsUser r = true)
    (hid : e.id ∈ r.idsOf userId) :
    (s.replaced old e).alone r userId = (s.alone r userId).replaced
      (old.renamed (r.rank userId)) (e.renamed (r.rank userId)) := by
  refine alone_exchange (fun a ha => ?_) fun a ha => ?_
  · split
    · next hsame => exact (h.user_eq_of_keepsUser hkeeps ha hsame).symm
    · rfl
  · have hmem := h.mem_idsOf_of_mem_ofUser ha
    have hiff : (a.renamed (r.rank userId)).id = (e.renamed (r.rank userId)).id ↔ a.id = e.id :=
      Register.rank_eq_iff (Or.inr hmem) hid
    by_cases hsame : a.id = e.id
    · rw [if_pos (hiff.mpr hsame), if_pos hsame]
      rfl
    · rw [if_neg (mt hiff.mp hsame), if_neg hsame]

theorem alone_replaced_of_notMem {old e : Event}
    (hkeeps : (StoreCall.update e).keepsUser r = true) (hid : e.id ∉ r.idsOf userId) :
    (s.replaced old e).alone r userId = s.alone r userId := by
  refine (alone_exchange (g := id) (fun a ha => ?_) fun a ha => ?_).trans ?_
  · split
    · next hsame => exact (h.user_eq_of_keepsUser hkeeps ha hsame).symm
    · rfl
  · have hother : a.id ≠ e.id := fun hsame => hid (hsame ▸ h.mem_idsOf_of_mem_ofUser ha)
    rw [if_neg hother, id]
  · rw [List.map_id]

theorem alone_marked {id : Int} (hid : id ∈ r.idsOf userId) :
    (s.marked id).alone r userId = (s.alone r userId).marked (r.rank userId id) := by
  refine alone_exchange (fun a _ => by split <;> rfl) fun a ha => ?_
  have hmem := h.mem_idsOf_of_mem_ofUser ha
  have hiff : (a.renamed (r.rank userId)).id = r.rank userId id ↔ a.id = id :=
    Register.rank_eq_iff (Or.inr hmem) hid
  by_cases hsame : a.id = id
  · rw [if_pos (hiff.mpr hsame), if_pos hsame]
    rfl
  · rw [if_neg (mt hiff.mp hsame), if_neg hsame]

theorem alone_marked_of_notMem {id : Int} (hid : id ∉ r.idsOf userId) :
    (s.marked id).alone r userId = s.alone r userId := by
  refine (alone_exchange (g := fun e => e) (fun a _ => by split <;> rfl) fun a ha => ?_).trans ?_
  · have hother : a.id ≠ id := fun hsame => hid (hsame ▸ h.mem_idsOf_of_mem_ofUser ha)
    rw [if_neg hother]
  · rw [List.map_id']

/-! ### Operations -/

/-- Alone, the user's insertion fails for the same reason or gives out the next id. -/
theorem insert_alone {e : Event}
    (hnew : ∀ p, s.assigned? (.insert e) = some p → r.Gives p.1 p.2) :
    (s.alone r e.userId).insert e =
      renameResult (r.rank e.userId) (fun p => (r.rank e.userId p.1, p.2.alone r e.userId))
        (s.insert e) := by
  have hcheck : (s.alone r e.userId).checkFree (r.rank e.userId 0) e.userId e.span = _ :=
    h.checkFree_alone (Or.inl rfl) e.span
  rw [Register.rank_zero] at hcheck
  cases hvalid : e.validate with
  | error v =>
    rw [insert, insert, hvalid]
    rfl
  | ok =>
    cases hfree : s.checkFree 0 e.userId e.span with
    | error err =>
      rw [insert, insert, hvalid, hcheck, hfree]
      rfl
    | ok =>
      rw [hfree] at hcheck
      have hinsert : s.insert e = .ok (s.lastId + 1, s.added e) :=
        insert_eq_ok_iff.mpr ⟨hvalid, checkFree_eq_ok_iff.mp hfree, rfl, rfl⟩
      have hanswer : s.answer (.insert e) = (.ok (s.lastId + 1), s.added e) := by
        rw [EventStore.answer, hinsert]
        rfl
      have hgives : r.Gives (s.lastId + 1) e.userId := hnew _ (assigned?_of_added hanswer)
      have hlast : (s.alone r e.userId).lastId + 1 = r.rank e.userId (s.lastId + 1) :=
        (Register.rank_succ_of_mem (Register.mem_idsOf_iff.mpr hgives)).symm
      rw [hinsert, renameResult, alone_added hgives, ← hlast]
      exact insert_eq_ok_iff.mpr ⟨hvalid, checkFree_eq_ok_iff.mp hcheck, rfl, rfl⟩

/-- Alone, the user's change of an event fails for the same reason or is made as well. -/
theorem update_alone {e : Event} (hkeeps : (StoreCall.update e).keepsUser r = true)
    (hid : e.id ∈ r.idsOf userId) :
    (s.alone r userId).update (e.renamed (r.rank userId)) =
      renameResult (r.rank userId) (·.alone r userId) (s.update e) := by
  obtain rfl := StoreCall.user_eq_of_keepsUser hkeeps (Register.mem_idsOf_iff.mp hid)
  have hpos := Register.pos_of_mem_idsOf hid
  have hrank : (e.renamed (r.rank e.userId)).id ≠ 0 := by
    have hlt := Register.rank_lt hid (a := 0) (by omega)
    rw [Register.rank_zero] at hlt
    exact Int.ne_of_gt hlt
  have hvalid : (e.renamed (r.rank e.userId)).validateChange = e.validateChange := by
    rw [Event.validateChange, Event.validateChange, if_neg hrank, if_neg (by omega)]
    rfl
  have hget : (s.alone r e.userId).get (e.renamed (r.rank e.userId)).id = _ := h.get_alone hid
  have hcheck : (s.alone r e.userId).checkFree (e.renamed (r.rank e.userId)).id
      (e.renamed (r.rank e.userId)).userId (e.renamed (r.rank e.userId)).span = _ :=
    h.checkFree_alone (Or.inr hid) e.span
  cases hrules : e.validateChange with
  | error v =>
    rw [update, update, hvalid, hrules]
    rfl
  | ok =>
    cases hstored : s.get e.id with
    | error err =>
      rw [update, update, hvalid, hrules, hget, hstored]
      rfl
    | ok old =>
      cases hfree : s.checkFree e.id e.userId e.span with
      | error err =>
        rw [update, update, hvalid, hrules, hget, hstored, hcheck, hfree]
        rfl
      | ok =>
        obtain ⟨hnamed, hrules⟩ := Event.validateChange_eq_ok_iff.mp hrules
        rw [hstored] at hget
        rw [hfree] at hcheck
        have hupdate : s.update e = .ok (s.replaced old e) :=
          update_eq_ok_iff.mpr ⟨hnamed, hrules, old, get_eq_ok_iff.mp hstored,
            checkFree_eq_ok_iff.mp hfree, rfl⟩
        rw [hupdate, renameResult, h.alone_replaced hkeeps hid]
        exact update_eq_ok_iff.mpr ⟨hrank, hrules, _, get_eq_ok_iff.mp hget,
          checkFree_eq_ok_iff.mp hcheck, rfl⟩

/-- Alone, a delivery to the user is noted as well, or its event is missed as well. -/
theorem markNotified_alone {id : Int} (hid : id ∈ r.idsOf userId) :
    (s.alone r userId).markNotified (r.rank userId id) =
      renameResult (r.rank userId) (·.alone r userId) (s.markNotified id) := by
  have hget := h.get_alone hid
  cases hstored : s.get id with
  | error err =>
    rw [hstored] at hget
    rw [markNotified, markNotified, hstored, hget]
    rfl
  | ok e =>
    rw [hstored] at hget
    have hmark : s.markNotified id = .ok (s.marked id) :=
      markNotified_eq_ok_iff.mpr ⟨⟨e, get_eq_ok_iff.mp hstored⟩, rfl⟩
    rw [hmark, renameResult, h.alone_marked hid]
    exact markNotified_eq_ok_iff.mpr ⟨⟨_, get_eq_ok_iff.mp hget⟩, rfl⟩

/-! ### One call -/

/-- A call of the user gives the same answer to the user alone, a purge apart, and does the same. -/
theorem alone_answer {c : StoreCall} (hkeeps : c.keepsUser r = true)
    (hnew : ∀ p, s.assigned? c = some p → r.Gives p.1 p.2)
    (hconcerns : c.concerns userId (r.idsOf userId) = true) :
    ((s.alone r userId).answer (c.renamed (r.rank userId))).2 = (s.answer c).2.alone r userId ∧
      ((∀ cutoff, c ≠ .purge cutoff) →
        ((s.alone r userId).answer (c.renamed (r.rank userId))).1 =
          c.renameAnswer (r.rank userId) (s.answer c).1) := by
  cases c with
  | connect | close | due => exact Bool.noConfusion hconcerns
  | insert e =>
    obtain rfl : e.userId = userId := by simpa [StoreCall.concerns] using hconcerns
    have hinsert := h.insert_alone hnew
    dsimp only [StoreCall.renamed, EventStore.answer]
    rw [hinsert]
    cases s.insert e <;> exact ⟨rfl, fun _ => rfl⟩
  | update e =>
    have hupdate := h.update_alone hkeeps (List.contains_iff_mem.mp hconcerns)
    dsimp only [StoreCall.renamed, EventStore.answer]
    rw [hupdate]
    cases s.update e <;> exact ⟨rfl, fun _ => rfl⟩
  | markNotified id =>
    have hmark := h.markNotified_alone (List.contains_iff_mem.mp hconcerns)
    dsimp only [StoreCall.renamed, EventStore.answer]
    rw [hmark]
    cases s.markNotified id <;> exact ⟨rfl, fun _ => rfl⟩
  | delete id =>
    have hid := List.contains_iff_mem.mp hconcerns
    have hkept : (s.kept (·.id != id)).alone r userId =
        (s.alone r userId).kept (·.id != r.rank userId id) := by
      refine alone_kept fun e he => ?_
      have hmem := h.mem_idsOf_of_mem_ofUser he
      rw [Bool.eq_iff_iff, bne_iff_ne, bne_iff_ne, ne_eq, ne_eq]
      exact not_congr (Register.rank_eq_iff (Or.inr hmem) hid)
    exact ⟨hkept.symm, fun _ => rfl⟩
  | get id => exact ⟨rfl, fun _ => h.get_alone (List.contains_iff_mem.mp hconcerns)⟩
  | all user =>
    obtain rfl : user = userId := by simpa [StoreCall.concerns] using hconcerns
    refine ⟨rfl, fun _ => ?_⟩
    dsimp only [StoreCall.renamed, EventStore.answer]
    rw [ofUser_alone]
    rfl
  | range user span =>
    obtain rfl : user = userId := by simpa [StoreCall.concerns] using hconcerns
    refine ⟨rfl, fun _ => ?_⟩
    dsimp only [StoreCall.renamed, EventStore.answer]
    rw [inRange, ofUser_alone, alone, List.filter_map]
    rfl
  | busy exclude user span =>
    obtain ⟨rfl, hexclude⟩ : user = userId ∧ (exclude = 0 ∨ exclude ∈ r.idsOf userId) := by
      simpa [StoreCall.concerns] using hconcerns
    refine ⟨rfl, fun _ => ?_⟩
    dsimp only [StoreCall.renamed, EventStore.answer]
    rw [h.checkFree_alone hexclude]
    cases s.checkFree exclude user span <;> rfl
  | purge cutoff =>
    refine ⟨?_, fun hne => absurd rfl (hne cutoff)⟩
    have hanswer : ∀ t : EventStore,
        (t.answer (.purge cutoff)).2 = t.kept fun e => cutoff ≤ e.offTime :=
      fun t => t.purge_eq cutoff
    rw [StoreCall.renamed, hanswer, hanswer]
    exact (alone_kept fun e _ => rfl).symm

/-- A call that is for someone else changes nothing for the user. -/
theorem alone_answer_of_not_concerns {c : StoreCall} (hkeeps : c.keepsUser r = true)
    (hnew : ∀ p, s.assigned? c = some p → r.Gives p.1 p.2)
    (hconcerns : c.concerns userId (r.idsOf userId) = false) :
    (s.answer c).2.alone r userId = s.alone r userId := by
  cases c with
  | connect | close | due | get | all | range | busy => rfl
  | purge => exact Bool.noConfusion hconcerns
  | insert e =>
    rcases s.answer_insert_cases e with ⟨err, hanswer⟩ | hanswer
    · rw [hanswer]
    · rw [hanswer]
      have hother : e.userId ≠ userId := by simpa [StoreCall.concerns] using hconcerns
      exact alone_added_of_ne (hnew _ (assigned?_of_added hanswer)) hother
  | update e =>
    rcases s.answer_update_cases e with ⟨err, hanswer⟩ | ⟨old, hold, hanswer⟩
    · rw [hanswer]
    · rw [hanswer]
      exact h.alone_replaced_of_notMem hkeeps (by simpa [StoreCall.concerns] using hconcerns)
  | delete id =>
    have hid : id ∉ r.idsOf userId := by simpa [StoreCall.concerns] using hconcerns
    have hkept : (s.kept (·.id != id)).alone r userId = s.alone r userId :=
      alone_kept_of_keeps fun e he =>
        bne_iff_ne.mpr fun hsame => hid (hsame ▸ h.mem_idsOf_of_mem_ofUser he)
    exact hkept
  | markNotified id =>
    rcases s.answer_markNotified_cases id with ⟨-, hanswer⟩ | ⟨e, -, hanswer⟩
    · rw [hanswer]
    · rw [hanswer]
      exact h.alone_marked_of_notMem (by simpa [StoreCall.concerns] using hconcerns)

end Owned

/-! ### Runs -/

/-- What the user would have alone, after a part of a run in which no event changes hands, is what
the user has alone after the user's calls. -/
theorem alone_run {calls : List StoreCall}
    (hkeeps : ∀ c ∈ calls, c.keepsUser (register calls) = true) (userId : Int)
    {before after : List StoreCall} (hcalls : calls = before ++ after) :
    (({} : EventStore).run before).Owned (register calls) ∧
      (({} : EventStore).run before).alone (register calls) userId =
        ({} : EventStore).run (reducedRun ((register calls).rank userId) userId
          ((register calls).idsOf userId) before) := by
  -- From call to call, so that each is one of a run whose register is known.
  induction before using List.reverseRecOn generalizing after with
  | nil => exact ⟨owned_empty _, alone_empty⟩
  | append_singleton before c ih =>
    rw [List.append_assoc, List.singleton_append] at hcalls
    obtain ⟨howned, halone⟩ := ih hcalls
    have hc := hkeeps c (hcalls ▸ List.mem_append_right _ List.mem_cons_self)
    have hnew : ∀ p, (({} : EventStore).run before).assigned? c = some p →
        (register calls).Gives p.1 p.2 :=
      fun p hp => hcalls ▸ gives_register_of_assigned? hp
    rw [run_append]
    refine ⟨howned.answer hc hnew, ?_⟩
    rw [reducedRun, List.filter_append, List.map_append, run_append, ← reducedRun, ← halone]
    cases hconcerns : c.concerns userId ((register calls).idsOf userId) with
    | true =>
      rw [List.filter_cons_of_pos hconcerns]
      exact (howned.alone_answer hc hnew hconcerns).1.symm
    | false =>
      rw [List.filter_cons_of_neg (Bool.eq_false_iff.mp hconcerns)]
      exact howned.alone_answer_of_not_concerns hc hnew hconcerns

/-- **A user sees the user's own run.** Let no change in a run of calls on an empty store hand its
event to another user. Then the ids of a user can be renamed, in their order, such that each call
for the user, purges apart, has the same answer in the run as among the user's calls and the purges
alone, and that the user has the same events in the end. Calls may name ids that were not given
out, and an excluded id of zero stays zero. -/
theorem user_sees_own_run (calls : List StoreCall)
    (hkeeps : ∀ c ∈ calls, c.keepsUser (register calls) = true) (userId : Int) :
    let ids := (register calls).idsOf userId
    ∃ ρ : Int → Int,
      ρ 0 = 0 ∧ (∀ a, ∀ b ∈ ids, a < b → ρ a < ρ b) ∧
      (∀ before c after, calls = before ++ c :: after → c.concerns userId ids = true →
        (∀ cutoff, c ≠ .purge cutoff) →
        ((({} : EventStore).run (reducedRun ρ userId ids before)).answer (c.renamed ρ)).1 =
          c.renameAnswer ρ ((({} : EventStore).run before).answer c).1) ∧
      (({} : EventStore).run (reducedRun ρ userId ids calls)).events =
        ((({} : EventStore).run calls).ofUser userId).map (·.renamed ρ) := by
  intro ids
  refine ⟨(register calls).rank userId, Register.rank_zero, fun a b hb => Register.rank_lt hb,
    ?_, ?_⟩
  · intro before c after hcalls hconcerns hpurge
    obtain ⟨howned, halone⟩ := alone_run hkeeps userId hcalls
    have hc := hkeeps c (hcalls ▸ List.mem_append_right _ List.mem_cons_self)
    rw [← halone]
    exact (howned.alone_answer hc (fun p hp => hcalls ▸ gives_register_of_assigned? hp)
      hconcerns).2 hpurge
  · rw [← (alone_run hkeeps userId (List.append_nil calls).symm).2]
    rfl

/-- An event that takes the first half of a day. -/
def halfDay (id userId day : Int) : Event where
  id := id
  userId := userId
  onTime := (Instant.of? day 0 1).getD .epoch
  offTime := (Instant.of? day 43200 0).getD .epoch

/-- Two users share a store. The first adds an event, one more after the other user has added one,
and one that is in the way of that; it is told of its second event, moves it to another day and asks
whether that day is free of others; the first events of both are purged, and the first user looks
for what is left. -/
def shared : List StoreCall :=
  [.insert (halfDay 0 1 1), .insert (halfDay 0 2 1), .insert (halfDay 0 1 5),
    .insert (halfDay 0 1 5), .markNotified 3, .markNotified 2, .update (halfDay 3 1 9),
    .busy 3 1 (halfDay 0 1 9).span, .purge ((Instant.of? 3 0 0).getD .epoch), .get 1, .get 3,
    .all 1]

/-- The first user is told of the same event in the way, and has the same event in the end, as
without the second. -/
theorem shared_seen_by_first_user :
    (∀ c ∈ shared, c.keepsUser (register shared) = true) ∧ (register shared).idsOf 1 = [1, 3] ∧
      ∃ ρ : Int → Int, 0 < ρ 1 ∧ ρ 1 < ρ 3 ∧
        ((({} : EventStore).run (reducedRun ρ 1 [1, 3] (shared.take 3))).answer
          (.insert (halfDay 0 1 5))).1 = .error (.conflict 1 (ρ 3)) ∧
        (({} : EventStore).run (reducedRun ρ 1 [1, 3] shared)).events =
          [{ halfDay (ρ 3) 1 9 with notified := true }] := by
  have hkeeps : ∀ c ∈ shared, c.keepsUser (register shared) = true := by decide +kernel
  have hids : (register shared).idsOf 1 = [1, 3] := by decide +kernel
  obtain ⟨ρ, hzero, hlt, hanswers, hevents⟩ := user_sees_own_run shared hkeeps 1
  rw [hids] at hlt hanswers hevents
  refine ⟨hkeeps, hids, ρ, ?_, hlt 1 3 (by decide) (by decide), ?_, ?_⟩
  · rw [← hzero]
    exact hlt 0 1 (by decide) (by decide)
  · have hrefused : (({} : EventStore).run (shared.take 3)).insert
        (halfDay 0 1 5) = .error (.conflict 1 3) := by
      rfl
    refine (hanswers (shared.take 3) _ (shared.drop 4) rfl rfl (by simp)).trans ?_
    rw [answer, hrefused]
    rfl
  · have hown : (({} : EventStore).run shared).ofUser 1 =
        [{ halfDay 3 1 9 with notified := true }] := by
      decide +kernel
    rw [hevents, hown]
    rfl

end EventStore

end Datebook
