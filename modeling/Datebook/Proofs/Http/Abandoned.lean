import Datebook.Http.Router
import Datebook.Proofs.Span.Range

/-!
# Requests without a response

Of all requests only those for a day or a week of a user may be abandoned: where the date leads to a
span of which a part lies outside the range of instants. That is so for the last day of the range,
and for the weeks that the range does not hold as a whole. The month has a way out at the end of the
range, and all other handlers come to a response.

## Main definitions

* `Datebook.Http.View.LeavesRange`: the view of a date is no span.

## Main results

* `Datebook.Http.respond?_eq_none_iff`
-/

namespace Datebook.Http

open Instant (firstDay lastDay)

/-- The view of the date of an instant needs instants outside the range. -/
def View.LeavesRange (date : Instant) : View → Prop
  | .day => date.day = lastDay
  | .week => date.day ≤ firstDay + 3 ∨ date.day = lastDay
  | .all | .month => False

variable {cal : Calendar} {userId : Int} {date : Instant} {r : Request}

theorem within_eq_none_iff {operation : String} {span : Option Span} :
    cal.within operation userId span = none ↔ userId ≠ 0 ∧ span = none := by
  rw [Calendar.within]
  split
  · next h => simp [h]
  · next h =>
    cases span with
    | none => exact iff_of_true rfl ⟨h, rfl⟩
    | some span => exact iff_of_false (Option.some_ne_none _) (by simp)

/-- A user's view of a date is abandoned where it leaves the range. -/
theorem view?_eq_none_iff {view : View} :
    view? cal userId view date = none ↔ userId ≠ 0 ∧ view.LeavesRange date := by
  cases view with
  | all => simp [view?, View.LeavesRange]
  | day => rw [view?, Calendar.day?, within_eq_none_iff, Span.day?_eq_none_iff, View.LeavesRange]
  | week => rw [view?, Calendar.week?, within_eq_none_iff, Span.week?_eq_none_iff, View.LeavesRange]
  | month => simp [view?, Calendar.month?, within_eq_none_iff, View.LeavesRange]

/-- The list of a user's events is abandoned where the query has a date and the view of it leaves
the range. -/
theorem list?_eq_none_iff {view : View} :
    list? cal userId view r = none ↔
      ∃ date, r.dateText.bind readDate = .ok date ∧ userId ≠ 0 ∧ view.LeavesRange date := by
  cases view with
  | all => simp [list?, View.LeavesRange]
  | day | week | month =>
    simp only [list?]
    cases hdate : r.dateText.bind readDate with
    | error response => simp
    | ok date => simp [view?_eq_none_iff]

theorem withNumber_eq_none_iff {name segment : String} {go : Int → Option (Routine Response)} :
    withNumber name segment go = none ↔ ∃ n, readNumber name segment = .ok n ∧ go n = none := by
  rw [withNumber]
  cases readNumber name segment <;> simp

/-- What a route holds is shown, unless it is a view of a date that leaves the range. -/
theorem show?_eq_none_iff {route : Route} :
    show? cal r route = none ↔
      ∃ segment view n date, route = .ofUser segment view ∧
        readNumber "user_id" segment = .ok n ∧ n ≠ 0 ∧
          r.dateText.bind readDate = .ok date ∧ view.LeavesRange date := by
  cases route with
  | health | events => simp [show?]
  | event id => simp [show?, withNumber_eq_none_iff]
  | ofUser segment view =>
    rw [show?, withNumber_eq_none_iff]
    constructor
    · rintro ⟨n, hn, hlist⟩
      obtain ⟨date, hdate, huser, hleaves⟩ := list?_eq_none_iff.mp hlist
      exact ⟨segment, view, n, date, rfl, hn, huser, hdate, hleaves⟩
    · rintro ⟨_, _, n, date, heq, hn, huser, hdate, hleaves⟩
      obtain ⟨rfl, rfl⟩ := Route.ofUser.inj heq
      exact ⟨n, hn, list?_eq_none_iff.mpr ⟨date, hdate, huser, hleaves⟩⟩

theorem handle?_eq_none_iff {route : Route} :
    handle? cal r route = none ↔
      (r.method = .get ∨ r.method = .head) ∧ show? cal r route = none := by
  rw [handle?.eq_def]
  generalize r.method = method
  cases method <;> cases route <;> simp [withNumber_eq_none_iff]

/-- **Which requests have no response.** A request is abandoned exactly if it asks, by `GET` or
`HEAD`, for a day or a week of a user whose number is not zero, at a date that can be read and of
which the day is the last one of all or the week is not in the range as a whole. To any other
request there is a response, whatever is stored. -/
theorem respond?_eq_none_iff (cal : Calendar) (r : Request) :
    respond? cal r = none ↔
      (r.method = .get ∨ r.method = .head) ∧
        ∃ segment view n date, Route.ofPath? r.path = some (.ofUser segment view) ∧
          readNumber "user_id" segment = .ok n ∧ n ≠ 0 ∧
            r.dateText.bind readDate = .ok date ∧ view.LeavesRange date := by
  rw [respond?]
  cases hroute : Route.ofPath? r.path with
  | none => simp
  | some route => simp only [handle?_eq_none_iff, show?_eq_none_iff, Option.some.injEq]

/-- The last day of all is a date that can be read, and a request for it is abandoned. -/
theorem last_day_abandoned :
    respond? {} (.ofTarget .get "/v1/users/1/events/day?date=%2B262142-12-31" none []) = none := by
  rfl

end Datebook.Http
