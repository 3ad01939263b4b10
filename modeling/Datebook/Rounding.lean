/-!
# Rounding

A quotient is rounded to the nearest whole number, and a number to its leading 53 binary
digits, which is what a floating-point number of 64 bits keeps of it. A half goes to the
even neighbour.

## Main definitions

* `Datebook.roundedQuotient`
* `Datebook.leading53`
* `Datebook.floatBound`: where floating-point numbers end
-/

namespace Datebook

/-- A quotient rounded to the nearest whole number, a half to the even neighbour. -/
def roundedQuotient (dividend divisor : Nat) : Nat :=
  let quotient := dividend / divisor
  let twice := 2 * (dividend % divisor)
  if twice < divisor ∨ (twice = divisor ∧ quotient % 2 = 0) then quotient else quotient + 1

/-- A power of two. -/
def powerOfTwo (n : Nat) : Nat :=
  Nat.pow 2 n

/-- A number rounded to its leading 53 binary digits. -/
def leading53 (n : Nat) : Nat :=
  if n < powerOfTwo 53 then n
  else
    let unit := powerOfTwo (n.log2 - 52)
    roundedQuotient n unit * unit

/-- Numbers from here on are rounded past the largest finite floating-point number of 64
bits. -/
def floatBound : Nat :=
  powerOfTwo 1024 - powerOfTwo 970

end Datebook
