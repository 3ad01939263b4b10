import Datebook.IpAddress
import Datebook.Url.DomainName
import Datebook.Url.Error

/-!
# Hosts

A host in brackets is an IP address of version 6. Where the scheme names hosts by domain
names, any other host is one; a name whose last label is a number is an IP address of
version 4: up to four numbers in base ten, eight or sixteen, of which the last fills the
bytes that the others leave. Other schemes take any name without marks of URLs in it.

## Main definitions

* `Datebook.Url.isV6`, `Datebook.Url.isV4`
* `Datebook.Url.checkHost`
-/

namespace Datebook.Url

open IpAddress (hexDigitValue? octets?)
open Text (splitAll)

/-! ### Version 6 -/

/-- The rest of an address with so many groups left. Two colons stand for the groups that are
missing, and may do so once. -/
def areGroups : (left : Nat) → (shortened : Bool) → List Char → Bool
  | left, shortened, [] => shortened || left == 0
  | 0, _, _ :: _ => false
  | left + 1, shortened, c :: cs =>
    if c = ':' then !shortened && areGroups left true cs
    else
      let digits := ((c :: cs).take 4).takeWhile fun d => (hexDigitValue? d).isSome
      match (c :: cs).drop digits.length with
      | [] => shortened || left == 0
      | ':' :: rest => !rest.isEmpty && areGroups left shortened rest
      | '.' :: _ =>
        (octets? (c :: cs)).any (·.2.isEmpty) && (left == 1 || (shortened && 1 < left))
      | _ => false

/-- The text is an address of version 6. -/
def isV6 : List Char → Bool
  | ':' :: ':' :: cs => areGroups 7 true cs
  | ':' :: _ => false
  | cs => areGroups 8 false cs

/-! ### Version 4 -/

/-- The number that digits in some base stand for. -/
def numberIn? (base : Nat) (cs : List Char) : Option Nat :=
  cs.foldl (fun n c => do
    let d ← hexDigitValue? c
    if d < base then some (base * (← n) + d) else none) (some 0)

/-- The number that a label stands for. It is in base sixteen after `0x`, in base eight after
any other zero. -/
def labelNumber? : List Char → Option Nat
  | [] => none
  | '0' :: 'x' :: digits => numberIn? 16 digits
  | '0' :: d :: digits => numberIn? 8 (d :: digits)
  | digits => numberIn? 10 digits

/-- The labels of a name; one full stop at its end begins no label. -/
def labels (name : List Char) : List (List Char) :=
  let parts := splitAll '.' name
  if parts.getLast? = some [] then parts.dropLast else parts

/-- The last label of a name is a number, or at least all digits. -/
def endsInNumber (name : List Char) : Bool :=
  (labels name).getLast?.any fun label =>
    !label.isEmpty && (label.all Numeral.isDigit || (labelNumber? label).isSome)

/-- The name is an address of version 4. -/
def isV4 (name : List Char) : Bool :=
  ((labels name).mapM labelNumber?).any fun numbers =>
    numbers.length ≤ 4 && numbers.dropLast.all (· < 256) &&
      numbers.getLast?.any (· < Nat.pow 256 (5 - numbers.length))

/-! ### Hosts -/

/-- A character that no name may hold. -/
def isForbidden (c : Char) : Bool :=
  c.toNat == 0 || "\t\n\r #/:<>?@[\\]^|".toList.contains c

/-- The text is a domain name, or an address in place of one. -/
def checkDomain (host : List Char) : Except UrlError Unit :=
  match domainName? host with
  | none => .error .invalidDomainName
  | some [] => .error .emptyHost
  | some name => if endsInNumber name && !isV4 name then .error .invalidV4 else .ok ()

/-- The text is a host; `byDomain` says whether the scheme names hosts by domain names. -/
def checkHost (byDomain : Bool) (host : List Char) : Except UrlError Unit :=
  match host with
  | '[' :: rest =>
    if rest.getLast? = some ']' ∧ isV6 rest.dropLast then .ok () else .error .invalidV6
  | _ =>
    if byDomain then checkDomain host
    else if host.any isForbidden then .error .forbiddenCharacter
    else .ok ()

end Datebook.Url
