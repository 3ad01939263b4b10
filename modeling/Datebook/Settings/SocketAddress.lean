import Datebook.IpAddress
import Datebook.Text.Quoted

/-!
# Socket addresses

A socket address is an IP address with a port. An address of version 6 stands in brackets,
and a percent sign and the number of a scope may follow it there.

The written form is canonical: of the longest run of zero groups, the first if there are
several, two colons take the place if it has more than one group, and an address of version
4 that is mapped into version 6 is written as such.

## Main definitions

* `Datebook.SocketAddress`, `Datebook.SocketAddress.ofText?`
* `Datebook.SocketAddress.text`
-/

namespace Datebook

/-- An IP address with a port. -/
inductive SocketAddress where
  | v4 (octets : List Nat) (port : Nat)
  | v6 (groups : List Nat) (scope port : Nat)
  deriving DecidableEq, Repr

namespace SocketAddress

open IpAddress (number? after? octets? allGroups?)

/-! ### Reading -/

/-- The number of a scope after a percent sign, zero where there is none. -/
def scope? (cs : List Char) : Option (Nat × List Char) :=
  match after? '%' cs with
  | some rest => number? Numeral.maxWord32 rest
  | none => some (0, cs)

/-- A port after a colon, with nothing behind it. -/
def port? (cs : List Char) : Option Nat := do
  let (port, rest) ← number? 65535 (← after? ':' cs)
  if rest.isEmpty then some port else none

/-- An address of version 4 with its port. -/
def ofV4? (cs : List Char) : Option SocketAddress := do
  let (octets, rest) ← octets? cs
  some (.v4 octets (← port? rest))

/-- An address of version 6 with its port. -/
def ofV6? (cs : List Char) : Option SocketAddress := do
  let (groups, rest) ← allGroups? (← after? '[' cs)
  let (scope, rest) ← scope? rest
  some (.v6 groups scope (← port? (← after? ']' rest)))

/-- The socket address that a text names. -/
def ofText? (s : String) : Option SocketAddress :=
  (ofV4? s.toList).or (ofV6? s.toList)

/-! ### Writing -/

/-- Parts with a mark between them. -/
def joined (mark : Char) : List (List Char) → List Char
  | [] => []
  | [part] => part
  | part :: parts => part ++ mark :: joined mark parts

/-- Octets with dots between them. -/
def octetsChars (octets : List Nat) : List Char :=
  joined '.' (octets.map Numeral.digits)

/-- Groups with colons between them. -/
def groupsChars (groups : List Nat) : List Char :=
  joined ':' (groups.map Text.hexDigits)

/-- The first of the longest runs of zeros: its place and its length. -/
def zeroRun (groups : List Nat) : Nat × Nat :=
  let runs := (List.range groups.length).map fun i =>
    (i, ((groups.drop i).takeWhile (· == 0)).length)
  runs.foldl (fun best run => if best.2 < run.2 then run else best) (0, 0)

/-- The written form of eight groups. -/
def addressChars (groups : List Nat) : List Char :=
  match groups with
  | [0, 0, 0, 0, 0, 0xFFFF, high, low] =>
    "::ffff:".toList ++ octetsChars [high / 256, high % 256, low / 256, low % 256]
  | _ =>
    let (place, length) := zeroRun groups
    if 1 < length then
      groupsChars (groups.take place) ++ "::".toList ++ groupsChars (groups.drop (place + length))
    else groupsChars groups

/-- The written form of a socket address. -/
def text : SocketAddress → String
  | .v4 octets port => String.ofList (octetsChars octets ++ ':' :: Numeral.digits port)
  | .v6 groups scope port =>
    let scopeChars := if scope = 0 then [] else '%' :: Numeral.digits scope
    String.ofList ('[' :: addressChars groups ++ scopeChars ++ "]:".toList ++ Numeral.digits port)

end SocketAddress

end Datebook
