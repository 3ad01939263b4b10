import Datebook.Json.Number
import Datebook.Json.Text

/-!
# Passing over a JSON value

A value that nobody asked for still has to be well formed, at any depth. The arrays and
objects that are open are kept on a stack, innermost first.

## Main definitions

* `Datebook.Json.skipValue`: what follows the value at the head of a text
-/

namespace Datebook.Json

/-- An array or an object that is open. -/
inductive Frame where
  | array
  | object
  deriving DecidableEq, Repr

/-- The byte that closes an array or an object. -/
def Frame.closing : Frame → UInt8
  | .array => byte ']'
  | .object => byte '}'

/-- The rest of a text after an opening byte, with the frame that it opens. -/
def openFrame? (b : UInt8) : Option Frame :=
  if b = byte '[' then some .array else if b = byte '{' then some .object else none

/-- What follows the value at the head of a text, where the value is neither an array nor
an object. -/
def skipScalar : Bytes → Except ReadError Bytes
  | [] => .error .truncated
  | b :: bs =>
    if b = byte '"' then skipString bs
    else if b = byte 'n' then expectWord (bytesOf "ull") bs
    else if b = byte 't' then expectWord (bytesOf "rue") bs
    else if b = byte 'f' then expectWord (bytesOf "alse") bs
    else if startsNumber b then skipNumber (b :: bs)
    else .error .malformed

/-- What follows the colon after a key. -/
def expectColon (bs : Bytes) : Except ReadError Bytes :=
  match skipSpace bs with
  | [] => .error .truncated
  | b :: rest => if b = byte ':' then .ok rest else .error .malformed

/-- What follows a key and its colon. -/
def skipKey (bs : Bytes) : Except ReadError Bytes :=
  match skipSpace bs with
  | [] => .error .truncated
  | b :: rest =>
    if b = byte '"' then skipString rest >>= expectColon else .error .malformed

/-- What follows a key in an object; an array has none. -/
def skipLabel : Frame → Bytes → Except ReadError Bytes
  | .array, bs => .ok bs
  | .object, bs => skipKey bs

theorem skipScalar_length_lt {bs rest : Bytes} (h : skipScalar bs = .ok rest) :
    rest.length < bs.length := by
  match bs with
  | [] => simp [skipScalar] at h
  | b :: bs =>
    simp only [skipScalar] at h
    split at h
    · exact Nat.lt_succ_of_lt (skipString_length_lt h)
    · split at h
      · exact Nat.lt_succ_of_le (expectWord_length_le h)
      · split at h
        · exact Nat.lt_succ_of_le (expectWord_length_le h)
        · split at h
          · exact Nat.lt_succ_of_le (expectWord_length_le h)
          · split at h
            · exact skipNumber_length_lt h
            · simp at h

theorem expectColon_length_lt {bs rest : Bytes} (h : expectColon bs = .ok rest) :
    rest.length < bs.length := by
  have space := length_skipSpace_le bs
  unfold expectColon at h
  split at h
  · simp at h
  · next b r hs =>
    simp only [hs, List.length_cons] at space
    split at h
    · obtain rfl := Except.ok.inj h
      omega
    · simp at h

theorem skipKey_length_lt {bs rest : Bytes} (h : skipKey bs = .ok rest) :
    rest.length < bs.length := by
  have space := length_skipSpace_le bs
  unfold skipKey at h
  split at h
  · simp at h
  · next b r hs =>
    split at h
    · obtain ⟨r', hr, h⟩ := bind_eq_ok_iff.mp h
      have := skipString_length_lt hr
      have := expectColon_length_lt h
      simp only [hs, List.length_cons] at space
      omega
    · simp at h

theorem skipLabel_length_le {frame : Frame} {bs rest : Bytes}
    (h : skipLabel frame bs = .ok rest) : rest.length ≤ bs.length := by
  cases frame with
  | array => exact Except.ok.inj h ▸ Nat.le_refl _
  | object => exact Nat.le_of_lt (skipKey_length_lt h)

mutual

/-- What follows the value at the head of a text, and all the values it lies in. -/
def skipInside (stack : List Frame) (bs : Bytes) : Except ReadError Bytes :=
  match _space : skipSpace bs with
  | [] => .error .truncated
  | b :: rest =>
    match openFrame? b with
    | none =>
      match _scalar : skipScalar (b :: rest) with
      | .error e => .error e
      | .ok rest => skipAfter stack rest
    | some frame =>
      match _inner : skipSpace rest with
      | [] => .error .truncated
      | c :: more =>
        if c = frame.closing then skipAfter stack more
        else match _label : skipLabel frame rest with
          | .error e => .error e
          | .ok rest => skipInside (frame :: stack) rest
termination_by bs.length
decreasing_by
  · have space := length_skipSpace_le bs
    have := skipScalar_length_lt _scalar
    simp only [_space, List.length_cons] at *
    omega
  · have space := length_skipSpace_le bs
    have inner := length_skipSpace_le rest
    simp only [_space, _inner, List.length_cons] at *
    omega
  · have space := length_skipSpace_le bs
    have := skipLabel_length_le _label
    simp only [_space, List.length_cons] at *
    omega

/-- What follows all the values that a value lies in, from the end of that value. -/
def skipAfter (stack : List Frame) (bs : Bytes) : Except ReadError Bytes :=
  match stack with
  | [] => .ok bs
  | frame :: outer =>
    match _space : skipSpace bs with
    | [] => .error .truncated
    | b :: rest =>
      if b = frame.closing then skipAfter outer rest
      else if b = byte ',' then
        match _label : skipLabel frame rest with
        | .error e => .error e
        | .ok rest => skipInside stack rest
      else .error .malformed
termination_by bs.length
decreasing_by
  · have space := length_skipSpace_le bs
    simp only [_space, List.length_cons] at *
    omega
  · have space := length_skipSpace_le bs
    have := skipLabel_length_le _label
    simp only [_space, List.length_cons] at *
    omega

end

/-- What follows the value at the head of a text. -/
def skipValue (bs : Bytes) : Except ReadError Bytes :=
  skipInside [] bs

theorem skipInside_skipAfter_length (n : Nat) : ∀ {stack : List Frame} {bs rest : Bytes},
    bs.length ≤ n →
      (skipInside stack bs = .ok rest → rest.length < bs.length) ∧
        (skipAfter stack bs = .ok rest → rest.length ≤ bs.length) := by
  induction n with
  | zero =>
    intro stack bs rest hn
    match bs with
    | [] =>
      constructor
      · intro h
        unfold skipInside at h
        simp [skipSpace] at h
      · intro h
        unfold skipAfter at h
        split at h
        · exact Except.ok.inj h ▸ Nat.le_refl _
        · simp [skipSpace] at h
  | succ n ih =>
    intro stack bs rest hn
    have space := length_skipSpace_le bs
    constructor
    · intro h
      unfold skipInside at h
      split at h
      · simp at h
      · next b r hs =>
        split at h
        · split at h
          · simp at h
          · next r' hr =>
            have := skipScalar_length_lt hr
            simp only [hs, List.length_cons] at space this
            have := (ih (by omega)).2 h
            omega
        · have inner := length_skipSpace_le r
          simp only [hs, List.length_cons] at space
          split at h
          · simp at h
          · next c more hm =>
            simp only [hm, List.length_cons] at inner
            split at h
            · have := (ih (by omega)).2 h
              omega
            · split at h
              · simp at h
              · next r' hr =>
                have := skipLabel_length_le hr
                have := (ih (by omega)).1 h
                omega
    · intro h
      unfold skipAfter at h
      split at h
      · exact Except.ok.inj h ▸ Nat.le_refl _
      · split at h
        · simp at h
        · next b r hs =>
          simp only [hs, List.length_cons] at space
          split at h
          · have := (ih (by omega)).2 h
            omega
          · split at h
            · split at h
              · simp at h
              · next r' hr =>
                have := skipLabel_length_le hr
                have := (ih (by omega)).1 h
                omega
            · simp at h

theorem skipValue_length_lt {bs rest : Bytes} (h : skipValue bs = .ok rest) :
    rest.length < bs.length :=
  (skipInside_skipAfter_length bs.length (Nat.le_refl _)).1 h

end Datebook.Json
