import Datebook.Proofs.EventStore.Register
import Mathlib.Data.List.Count

/-!
# The calls of one user, under ids without gaps

What is left of a run when only the calls of one user are kept gives out its ids without the gaps
that other users leave in the sequence. An id of the user becomes its rank among the user's ids, so
that the ids keep their order, and the calls that name an id are renamed with it.

## Main definitions

* `Datebook.StoreCall.renamed`, `Datebook.StoreCall.renameAnswer`: a call and its answer with other
  ids in them.
* `Datebook.StoreCall.concerns`, `Datebook.reducedRun`: the calls that are for a user.
* `Datebook.Register.rank`: the renaming.

## Main results

* `Datebook.Register.rank_succ_of_mem`, `Datebook.Register.rank_succ_of_notMem`: the next rank is
  given out with the user's next id.
* `Datebook.Register.rank_lt`, `Datebook.Register.rank_eq_iff`: the order of the ids is kept.
-/

namespace Datebook

/-! ### Calls with other ids -/

section Renamed

variable (ρ : Int → Int)

/-- The event under another id. -/
def Event.renamed (e : Event) : Event :=
  { e with id := ρ e.id }

/-- The error with other ids in it. -/
def StoreError.renamed : StoreError → StoreError
  | .conflict userId conflictingId => .conflict userId (ρ conflictingId)
  | .notFound id => .notFound (ρ id)
  | .validation v => .validation v
  | .database message => .database message

/-- A result, and where it is an error the ids in it renamed. -/
def renameResult {α β : Type} (f : α → β) : Except StoreError α → Except StoreError β
  | .ok a => .ok (f a)
  | .error e => .error (e.renamed ρ)

namespace StoreCall

/-- The call with other ids in it. An insertion names none. -/
def renamed : StoreCall → StoreCall
  | .connect => .connect
  | .close => .close
  | .insert e => .insert e
  | .update e => .update (e.renamed ρ)
  | .delete id => .delete (ρ id)
  | .get id => .get (ρ id)
  | .all userId => .all userId
  | .range userId span => .range userId span
  | .busy exclude userId span => .busy (ρ exclude) userId span
  | .due asOf => .due asOf
  | .purge cutoff => .purge cutoff
  | .markNotified id => .markNotified (ρ id)

/-- The reply with other ids in it. -/
def renameReply : (c : StoreCall) → c.Reply → (c.renamed ρ).Reply
  | .connect, _ | .close, _ | .update _, _ | .delete _, _ => ()
  | .busy _ _ _, _ | .markNotified _, _ => ()
  | .insert _, (id : Int) => ρ id
  | .get _, (e : Event) => e.renamed ρ
  | .all _, (events : List Event) => events.map (·.renamed ρ)
  | .range _ _, (events : List Event) => events.map (·.renamed ρ)
  | .due _, (events : List Event) => events.map (·.renamed ρ)
  | .purge _, count => count

/-- The answer to a call with other ids in it. -/
def renameAnswer (c : StoreCall) :
    Except StoreError c.Reply → Except StoreError (c.renamed ρ).Reply :=
  renameResult ρ (c.renameReply ρ)

end StoreCall

end Renamed

/-- The call is for a user to whom the ids were given, or it is a purge. -/
def StoreCall.concerns (userId : Int) (ids : List Int) : StoreCall → Bool
  | .insert e => e.userId == userId
  | .all user | .range user _ => user == userId
  | .busy exclude user _ => user == userId && (exclude == 0 || ids.contains exclude)
  | .update e => ids.contains e.id
  | .delete id | .get id | .markNotified id => ids.contains id
  | .purge _ => true
  | .connect | .close | .due _ => false

/-- The calls of a run that are for a user, with other ids in them. -/
def reducedRun (ρ : Int → Int) (userId : Int) (ids : List Int) (calls : List StoreCall) :
    List StoreCall :=
  (calls.filter (·.concerns userId ids)).map (·.renamed ρ)

/-! ### The rank of an id -/

theorem countP_le_succ (ids : List Int) (n : Int) :
    ids.countP (· ≤ n + 1) = ids.countP (· ≤ n) + ids.count (n + 1) := by
  induction ids with
  | nil => rfl
  | cons id ids ih =>
    simp only [List.countP_cons, List.count_cons, ih, decide_eq_true_eq, beq_iff_eq]
    split <;> split <;> split <;> omega

namespace Register

variable {r : Register} {userId id : Int}

/-- The number of a user's ids up to the given one. -/
def rank (r : Register) (userId id : Int) : Int :=
  (r.idsOf userId).countP (· ≤ id)

theorem rank_zero : r.rank userId 0 = 0 := by
  have hnone : (r.idsOf userId).countP (· ≤ 0) = 0 := by
    refine List.countP_eq_zero.mpr fun id hid => ?_
    have hpos := pos_of_mem_idsOf hid
    simp only [decide_eq_true_eq]
    omega
  rw [rank, hnone]
  rfl

theorem rank_succ_of_mem (h : id + 1 ∈ r.idsOf userId) :
    r.rank userId (id + 1) = r.rank userId id + 1 := by
  rw [rank, countP_le_succ, List.count_eq_one_of_mem (r.nodup_idsOf userId) h]
  rfl

theorem rank_succ_of_notMem (h : id + 1 ∉ r.idsOf userId) :
    r.rank userId (id + 1) = r.rank userId id := by
  rw [rank, countP_le_succ, List.count_eq_zero.mpr h]
  rfl

theorem rank_mono {a b : Int} (h : a ≤ b) : r.rank userId a ≤ r.rank userId b := by
  refine Int.ofNat_le.mpr (List.countP_mono_left fun id _ hid => ?_)
  simp only [decide_eq_true_eq] at hid ⊢
  omega

/-- An id of the user outranks all that is before it. -/
theorem rank_lt {a b : Int} (hb : b ∈ r.idsOf userId) (h : a < b) :
    r.rank userId a < r.rank userId b := by
  obtain ⟨n, rfl⟩ : ∃ n, b = n + 1 := ⟨b - 1, by omega⟩
  have hle : r.rank userId a ≤ r.rank userId n := rank_mono (by omega)
  rw [rank_succ_of_mem hb]
  omega

/-- The ids of the user, and zero besides, have different ranks. -/
theorem rank_eq_iff {a b : Int} (ha : a = 0 ∨ a ∈ r.idsOf userId) (hb : b ∈ r.idsOf userId) :
    r.rank userId a = r.rank userId b ↔ a = b := by
  refine ⟨fun heq => ?_, fun heq => heq ▸ rfl⟩
  rcases Int.lt_trichotomy a b with hlt | heq | hlt
  · exact absurd heq (Int.ne_of_lt (rank_lt hb hlt))
  · exact heq
  · have hpos := pos_of_mem_idsOf hb
    rcases ha with rfl | ha
    · omega
    · exact absurd heq.symm (Int.ne_of_lt (rank_lt ha hlt))

end Register

end Datebook
