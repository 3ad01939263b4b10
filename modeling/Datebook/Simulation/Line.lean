/-!
# Waiting in line

Receivers that find no message wait in line, each with a ticket of its own. A new message
calls the first of them, other news call all. Whoever was called looks again, and goes to
the end of the line if there is still nothing to be had.

## Main definitions

* `Datebook.Line`, with `join`, `leave`, `callFirst`, `callAll` and `answer`
-/

namespace Datebook

/-- Tickets in the order in which they were handed out. -/
structure Line where
  waiting : List Nat := []
  /-- Tickets that were called and whose holders have not looked yet. -/
  called : List Nat := []
  nextTicket : Nat := 0
  deriving DecidableEq, Repr

namespace Line

/-- Wait at the end of the line, under a new ticket. -/
def join (l : Line) : Nat × Line :=
  (l.nextTicket,
    { l with waiting := l.waiting ++ [l.nextTicket], nextTicket := l.nextTicket + 1 })

/-- Wait no longer. -/
def leave (l : Line) (ticket : Nat) : Line :=
  { l with waiting := l.waiting.erase ticket, called := l.called.erase ticket }

/-- Call the first in line. -/
def callFirst (l : Line) : Line :=
  match l.waiting with
  | [] => l
  | ticket :: rest => { l with waiting := rest, called := l.called ++ [ticket] }

/-- Call everybody in line. -/
def callAll (l : Line) : Line :=
  { l with waiting := [], called := l.called ++ l.waiting }

/-- The holder of a ticket was called. -/
def hasCalled (l : Line) (ticket : Nat) : Bool :=
  l.called.contains ticket

/-- The holder of a ticket that was called looks again. -/
def answer (l : Line) (ticket : Nat) : Line :=
  { l with called := l.called.erase ticket }

end Line

end Datebook
