import Datebook.Instant

/-!
# Retention

Events that ended long ago are purged: a calendar year ago, or a number of days ago. Where
that lies before the first instant, the first instant takes its place.

## Main definitions

* `Datebook.Retention`, `Datebook.Retention.cutoff`
-/

namespace Datebook

/-- How long events are kept after their end. -/
inductive Retention where
  | year
  | days (count : Nat)
  deriving DecidableEq, Repr

/-- Events that end before this instant are purged. -/
def Retention.cutoff (retention : Retention) (now : Instant) : Instant :=
  match retention with
  | .year => now.yearBefore?.getD .earliest
  | .days count => (now.daysBefore? count).getD .earliest

end Datebook
