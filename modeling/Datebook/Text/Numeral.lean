/-!
# Decimal numerals

Whole numbers are written with the fewest digits, or with a fixed number of them. A numeral
is read from the left; the first digit that carries the value past the bound is an error of
its own, and comes before a character further right that is no digit.

## Main definitions

* `Datebook.Numeral.digits`, `Datebook.Numeral.padded`, `Datebook.Numeral.signed`: writing
* `Datebook.Numeral.takeDigits`: a run of digits at the head of a text
* `Datebook.Numeral.readNat`, `Datebook.Numeral.readInt`: reading with a bound
-/

namespace Datebook

/-- Why a text is not a numeral of the wanted range. -/
inductive NumeralError where
  | empty
  | invalidDigit
  | tooLarge
  | tooSmall
  deriving DecidableEq, Repr

/-- The wording of a numeral error. -/
def NumeralError.message : NumeralError → String
  | .empty => "cannot parse integer from empty string"
  | .invalidDigit => "invalid digit found in string"
  | .tooLarge => "number too large to fit in target type"
  | .tooSmall => "number too small to fit in target type"

namespace Numeral

/-! ### Writing -/

/-- The digit of a number below ten. -/
def digit (n : Nat) : Char :=
  Char.ofNat (48 + n)

/-- The fewest digits that write a number. -/
def digits (n : Nat) : List Char :=
  if n < 10 then [digit n] else digits (n / 10) ++ [digit (n % 10)]

/-- The last digits of a number, as many as asked for. -/
def padded (width n : Nat) : List Char :=
  match width with
  | 0 => []
  | width + 1 => padded width (n / 10) ++ [digit (n % 10)]

/-- A whole number with a minus sign where it is negative. -/
def signed (n : Int) : List Char :=
  if n < 0 then '-' :: digits n.natAbs else digits n.natAbs

/-- The text of a whole number. -/
def text (n : Int) : String :=
  String.ofList (signed n)

/-! ### Reading -/

/-- One of the ten ASCII digits. -/
def isDigit (c : Char) : Bool :=
  '0' ≤ c && c ≤ '9'

/-- The value of an ASCII digit. -/
def digitValue (c : Char) : Nat :=
  c.toNat - 48

/-- The number that a run of digits stands for. -/
def value (cs : List Char) : Nat :=
  cs.foldl (fun n c => 10 * n + digitValue c) 0

/-- The digits at the head of a text, at most as many as allowed, and what follows them. -/
def takeDigits : Nat → List Char → List Char × List Char
  | 0, cs => ([], cs)
  | _ + 1, [] => ([], [])
  | allowed + 1, c :: cs =>
    if isDigit c then
      let (ds, rest) := takeDigits allowed cs
      (c :: ds, rest)
    else ([], c :: cs)

/-- The number at the head of a text, written with at least and at most so many digits. -/
def number? (least most : Nat) (cs : List Char) : Option (Nat × List Char) :=
  let (ds, rest) := takeDigits most cs
  if ds.length < least then none else some (value ds, rest)

/-- Digits read onto a value whose size may not pass the bound. -/
def readDigits (bound : Nat) (overflow : NumeralError) :
    Nat → List Char → Except NumeralError Nat
  | n, [] => .ok n
  | n, c :: cs =>
    if isDigit c then
      let next := 10 * n + digitValue c
      if bound < next then .error overflow else readDigits bound overflow next cs
    else .error .invalidDigit

/-- A number up to a bound; a plus sign may come first. -/
def readNat (bound : Nat) : List Char → Except NumeralError Nat
  | [] => .error .empty
  | ['+'] => .error .invalidDigit
  | '+' :: cs => readDigits bound .tooLarge 0 cs
  | cs => readDigits bound .tooLarge 0 cs

/-- A number between the bounds of a signed word of the given size; a sign may come first. -/
def readInt (bound : Nat) : List Char → Except NumeralError Int
  | [] => .error .empty
  | ['+'] => .error .invalidDigit
  | ['-'] => .error .invalidDigit
  | '+' :: cs => Int.ofNat <$> readDigits bound .tooLarge 0 cs
  | '-' :: cs => (fun n => -Int.ofNat n) <$> readDigits (bound + 1) .tooSmall 0 cs
  | cs => Int.ofNat <$> readDigits bound .tooLarge 0 cs

/-- The largest 32-bit word. -/
def maxWord32 : Nat := 4294967295

/-- The largest 64-bit word. -/
def maxWord64 : Nat := 18446744073709551615

/-- The largest signed 64-bit word. -/
def maxInt64 : Nat := 9223372036854775807

/-- The number fits in a signed 64-bit word. -/
def fitsInt64 (n : Int) : Bool :=
  -Int.ofNat maxInt64 - 1 ≤ n && n ≤ Int.ofNat maxInt64

end Numeral

end Datebook
