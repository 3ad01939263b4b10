import Datebook.Text.Numeral

/-!
# Punycode

A label of letters beyond ASCII is written in ASCII: first its ASCII characters, then, after
the last hyphen, a number for each of the others. The numbers say in ascending order of the
characters how far it is from one insertion to the next, where a round through all places of
the text so far leads from one character to its successor.

A number is written with its lowest digit first. A digit below the threshold of its place
ends the number; the thresholds adapt to the size of the numbers before.

## Main definitions

* `Datebook.Url.Punycode.decode?`
-/

namespace Datebook.Url.Punycode

/-- The value of a digit: the letters come before the ten digits. -/
def digitValue? (c : Char) : Option Nat :=
  if 'a' ≤ c ∧ c ≤ 'z' then some (c.toNat - 97)
  else if Numeral.isDigit c then some (c.toNat - 48 + 26)
  else none

/-- The digits below this value end a number at a place. -/
def threshold (place bias : Nat) : Nat :=
  if place ≤ bias then 1 else min 26 (place - bias)

/-- The bias for numbers of about this size, onto that of the places it takes already. -/
def biasOf (size places : Nat) : Nat :=
  if 455 < size then biasOf (size / 35) (places + 36) else places + 36 * size / (size + 38)
termination_by size

/-- The bias after a number was read that leads to a text of so many characters. -/
def nextBias (first : Bool) (number length : Nat) : Nat :=
  let size := if first then number / 700 else number / 2
  biasOf (size + size / length) 0

/-- The number at the head of a text, from a place of some weight on. -/
def number? (bias : Nat) : (place weight : Nat) → List Char → Option (Nat × List Char)
  | _, _, [] => none
  | place, weight, c :: cs =>
    match digitValue? c with
    | none => none
    | some d =>
      if d < threshold place bias then some (d * weight, cs)
      else (number? bias (place + 36) (weight * (36 - threshold place bias)) cs).map
        fun (n, rest) => (d * weight + n, rest)

theorem number?_length_lt {bias place weight : Nat} {cs rest : List Char} {n : Nat}
    (h : number? bias place weight cs = some (n, rest)) : rest.length < cs.length := by
  induction cs generalizing place weight n with
  | nil => simp [number?] at h
  | cons c cs ih =>
    simp only [number?] at h
    split at h
    · simp at h
    · split at h
      · simp_all
      · obtain ⟨_, hm, hr⟩ := Option.map_eq_some_iff.1 h
        obtain ⟨_, rfl⟩ := Prod.mk.inj hr
        exact Nat.lt_succ_of_lt (ih hm)

/-- The text with the characters inserted that the numbers stand for. The last insertion was
of the character with a code, just before a place. -/
def insertAll? (bias code place : Nat) (text : List Char) : List Char → Option (List Char)
  | [] => some text
  | c :: cs =>
    match h : number? bias 36 1 (c :: cs) with
    | none => none
    | some (n, rest) =>
      let length := text.length + 1
      let nextCode := code + (place + n) / length
      let nextPlace := (place + n) % length
      if nextCode.isValidChar then
        insertAll? (nextBias (place == 0) n length) nextCode (nextPlace + 1)
          (text.insertIdx nextPlace (Char.ofNat nextCode)) rest
      else none
termination_by cs => cs.length
decreasing_by exact number?_length_lt h

/-- The label that an ASCII text stands for. -/
def decode? (encoded : List Char) : Option (List Char) :=
  let numbers := (encoded.reverse.takeWhile (· != '-')).reverse
  let ascii := encoded.take (encoded.length - numbers.length - 1)
  if ascii.all (·.toNat < 128) then insertAll? 72 128 0 ascii numbers else none

end Datebook.Url.Punycode
