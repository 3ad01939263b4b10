import Datebook.Text.Numeral

/-!
# IP addresses

An address of version 4 is four numbers below 256 with dots between them, none with a
leading zero. An address of version 6 is eight groups of up to four hexadecimal digits with
colons between them, where two colons stand for a run of zero groups and the last two groups
may be written as an address of version 4.

## Main definitions

* `Datebook.IpAddress`, `Datebook.IpAddress.ofText?`
* `Datebook.IpAddress.octets?`, `Datebook.IpAddress.allGroups?`: addresses at the head of a text
-/

namespace Datebook

/-- An IP address. -/
inductive IpAddress where
  | v4 (octets : List Nat)
  | v6 (groups : List Nat)
  deriving DecidableEq, Repr

namespace IpAddress

/-- The value of a hexadecimal digit. -/
def hexDigitValue? (c : Char) : Option Nat :=
  if Numeral.isDigit c then some (c.toNat - 48)
  else if 'a' ≤ c ∧ c ≤ 'f' then some (c.toNat - 87)
  else if 'A' ≤ c ∧ c ≤ 'F' then some (c.toNat - 55)
  else none

/-- A decimal number up to a bound, with any number of leading zeros. -/
def number? (bound : Nat) (cs : List Char) : Option (Nat × List Char) :=
  let ds := cs.takeWhile Numeral.isDigit
  if ds.isEmpty ∨ bound < Numeral.value ds then none
  else some (Numeral.value ds, cs.dropWhile Numeral.isDigit)

/-- A decimal number below 256 without leading zeros. -/
def octet? (cs : List Char) : Option (Nat × List Char) :=
  if cs.head? = some '0' ∧ 1 < (cs.takeWhile Numeral.isDigit).length then none
  else number? 255 cs

/-- What follows a character. -/
def after? (mark : Char) : List Char → Option (List Char)
  | [] => none
  | c :: cs => if c = mark then some cs else none

/-- Four octets with dots between them. -/
def octets? (cs : List Char) : Option (List Nat × List Char) := do
  let (a, cs) ← octet? cs
  let (b, cs) ← octet? (← after? '.' cs)
  let (c, cs) ← octet? (← after? '.' cs)
  let (d, cs) ← octet? (← after? '.' cs)
  some ([a, b, c, d], cs)

/-- A group of one to four hexadecimal digits. -/
def group? (cs : List Char) : Option (Nat × List Char) :=
  let ds := cs.takeWhile fun c => (hexDigitValue? c).isSome
  if ds.isEmpty ∨ 4 < ds.length then none
  else some (ds.foldl (fun n c => 16 * n + (hexDigitValue? c).getD 0) 0,
    cs.dropWhile fun c => (hexDigitValue? c).isSome)

/-- Two groups that are written as an address of version 4. -/
def mappedGroups? (cs : List Char) : Option (List Nat × List Char) :=
  match octets? cs with
  | some ([a, b, c, d], rest) => some ([256 * a + b, 256 * c + d], rest)
  | _ => none

/-- As many groups as there are, up to a limit, with colons between them; an address of
version 4 stands for the last two. Also says whether there was one. -/
def groups : (limit : Nat) → (first : Bool) → List Char → List Nat × Bool × List Char
  | 0, _, cs => ([], false, cs)
  | limit + 1, first, cs =>
    let item := if first then some cs else after? ':' cs
    match if 0 < limit then item.bind mappedGroups? else none with
    | some (pair, rest) => (pair, true, rest)
    | none =>
      match item.bind group? with
      | none => ([], false, cs)
      | some (g, rest) =>
        let (gs, mapped, rest) := groups limit false rest
        (g :: gs, mapped, rest)

/-- The eight groups of an address of version 6. -/
def allGroups? (cs : List Char) : Option (List Nat × List Char) :=
  match groups 8 true cs with
  | (head, mapped, rest) =>
    if head.length = 8 then some (head, rest)
    else if mapped then none
    else do
      let rest ← after? ':' (← after? ':' rest)
      let (tail, _, rest) := groups (7 - head.length) true rest
      some (head ++ List.replicate (8 - head.length - tail.length) 0 ++ tail, rest)

/-- The IP address that a text names. -/
def ofText? (s : String) : Option IpAddress :=
  match octets? s.toList with
  | some (octets, []) => some (.v4 octets)
  | _ =>
    match allGroups? s.toList with
    | some (groups, []) => some (.v6 groups)
    | _ => none

end IpAddress

end Datebook
