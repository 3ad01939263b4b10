import Datebook.Instant.Relaxed
import Datebook.Json.Skip

/-!
# JSON records

A record is an object whose known members each have a kind, or an array of their values in
the order of the layout. In an object the members may come in any order, a known member may
not come twice, and other members are passed over; in an array the values may stop early,
but no other value may follow them. What was read is kept as an association list, so that
the order in which members came is of no consequence.

## Main definitions

* `Datebook.Json.Layout`, `Datebook.Json.Members`: names with kinds, names with values
* `Datebook.Json.readRecord`: the members of the record at the head of a text
* `Datebook.Json.decodeRecord`: a text that holds a record and nothing else
-/

namespace Datebook.Json

/-- What a member holds. -/
inductive Kind where
  | number
  | text
  | instant
  /-- An instant or `null`. -/
  | optionalInstant
  deriving DecidableEq, Repr

/-- The value of a member. -/
inductive Cell where
  | number (n : Int)
  | text (s : String)
  | instant (i : Instant)
  | null
  deriving DecidableEq

/-- The known members of a record with their kinds, in order. -/
abbrev Layout := List (String × Kind)

/-- The known members of a record that were read, with their values. -/
abbrev Members := List (String × Cell)

/-! ### Values -/

/-- The problem with a value of the wrong kind that was read through: the one found there,
if any. -/
def mismatchAfter {α : Type} : Except ReadError α → ReadError
  | .ok _ => .mismatch
  | .error e => e

/-- The problem with a value of the wrong kind. A value that is neither array nor object is
read through first. -/
def wrongValue : Bytes → ReadError
  | [] => .truncated
  | b :: bs =>
    if (openFrame? b).isSome then .mismatch
    else if b = byte '"' then mismatchAfter (readString bs)
    else if startsNumber b then mismatchAfter (readNumber (b :: bs))
    else mismatchAfter (skipScalar (b :: bs))

/-- The instant of the string whose opening quotation mark has been read. -/
def readInstant (bs : Bytes) : Except ReadError (Cell × Bytes) := do
  let (s, rest) ← readString bs
  match Instant.ofRelaxed? s with
  | some i => .ok (.instant i, rest)
  | none => .error .mismatch

/-- The value of the given kind that begins with the byte. -/
def readCellFrom (kind : Kind) (b : UInt8) (bs : Bytes) : Except ReadError (Cell × Bytes) :=
  if kind = .number ∧ startsNumber b then do
    let (n, rest) ← readInteger (b :: bs)
    .ok (.number n, rest)
  else if kind = .text ∧ b = byte '"' then do
    let (s, rest) ← readString bs
    .ok (.text s, rest)
  else if (kind = .instant ∨ kind = .optionalInstant) ∧ b = byte '"' then readInstant bs
  else if kind = .optionalInstant ∧ b = byte 'n' then do
    let rest ← expectWord (bytesOf "ull") bs
    .ok (.null, rest)
  else .error (wrongValue (b :: bs))

/-- The value of the given kind at the head of a text. -/
def readCell (kind : Kind) (bs : Bytes) : Except ReadError (Cell × Bytes) :=
  match skipSpace bs with
  | [] => .error .truncated
  | b :: rest => readCellFrom kind b rest

theorem readInstant_length_lt {bs rest : Bytes} {cell : Cell}
    (h : readInstant bs = .ok (cell, rest)) : rest.length < bs.length := by
  obtain ⟨⟨s, r⟩, hs, h⟩ := bind_eq_ok_iff.mp h
  dsimp only at h
  split at h
  · exact snd_eq_of_ok h ▸ readString_length_lt hs
  · simp at h

theorem readCellFrom_length_le {kind : Kind} {b : UInt8} {bs rest : Bytes} {cell : Cell}
    (h : readCellFrom kind b bs = .ok (cell, rest)) : rest.length ≤ bs.length := by
  unfold readCellFrom at h
  split at h
  · obtain ⟨⟨n, r⟩, hn, h⟩ := bind_eq_ok_iff.mp h
    have := readInteger_length_lt hn
    obtain rfl := snd_eq_of_ok h
    exact Nat.le_of_lt_succ this
  · split at h
    · obtain ⟨⟨s, r⟩, hs, h⟩ := bind_eq_ok_iff.mp h
      obtain rfl := snd_eq_of_ok h
      exact Nat.le_of_lt (readString_length_lt hs)
    · split at h
      · exact Nat.le_of_lt (readInstant_length_lt h)
      · split at h
        · obtain ⟨r, hr, h⟩ := bind_eq_ok_iff.mp h
          exact snd_eq_of_ok h ▸ expectWord_length_le hr
        · simp at h

theorem readCell_length_lt {kind : Kind} {bs rest : Bytes} {cell : Cell}
    (h : readCell kind bs = .ok (cell, rest)) : rest.length < bs.length := by
  have space := length_skipSpace_le bs
  unfold readCell at h
  split at h
  · simp at h
  · next b r hs =>
    have := readCellFrom_length_le h
    simp only [hs, List.length_cons] at space
    omega

/-! ### Records -/

/-- What comes next inside an array or an object: `true` with the text of another item, or
`false` with what follows the end. -/
def nextItem (frame : Frame) (first : Bool) (bs : Bytes) : Except ReadError (Bool × Bytes) :=
  match skipSpace bs with
  | [] => .error .truncated
  | b :: rest =>
    if b = frame.closing then .ok (false, rest)
    else if first then .ok (true, b :: rest)
    else if b = byte ',' then
      match skipSpace rest with
      | [] => .error .truncated
      | c :: more => if c = frame.closing then .error .malformed else .ok (true, c :: more)
    else .error .malformed

/-- What follows the end of an array that may hold no more values. -/
def expectEnd (bs : Bytes) : Except ReadError Bytes :=
  match skipSpace bs with
  | [] => .error .truncated
  | b :: rest => if b = Frame.array.closing then .ok rest else .error .malformed

/-- The members of a record from inside an array. -/
def readElements : Layout → (first : Bool) → Bytes → Except ReadError (Members × Bytes)
  | [], _, bs => do .ok ([], ← expectEnd bs)
  | (name, kind) :: layout, first, bs => do
    let (more, bs) ← nextItem .array first bs
    if more then
      let (cell, bs) ← readCell kind bs
      let (members, rest) ← readElements layout false bs
      .ok ((name, cell) :: members, rest)
    else .ok ([], bs)

/-- The key of a member, and what follows it. -/
def readKey : Bytes → Except ReadError (String × Bytes)
  | [] => .error .truncated
  | b :: bs => if b = byte '"' then readString bs else .error .malformed

/-- The member of the given name, unless it is known and was read before. A member that is
not known gives nothing. -/
def readMember (layout : Layout) (seen : List String) (name : String) (bs : Bytes) :
    Except ReadError (Members × Bytes) :=
  match layout.lookup name with
  | some kind =>
    if name ∈ seen then .error .mismatch
    else do
      let (cell, rest) ← readCell kind (← expectColon bs)
      .ok ([(name, cell)], rest)
  | none => do .ok ([], ← skipValue (← expectColon bs))

theorem nextItem_length_le {frame : Frame} {first more : Bool} {bs rest : Bytes}
    (h : nextItem frame first bs = .ok (more, rest)) : rest.length ≤ bs.length := by
  have space := length_skipSpace_le bs
  unfold nextItem at h
  split at h
  · simp at h
  · next b r hs =>
    simp only [hs, List.length_cons] at space
    split at h
    · obtain rfl := snd_eq_of_ok h
      omega
    · split at h
      · simp only [Except.ok.injEq, Prod.mk.injEq] at h
        simp only [← h.2, List.length_cons]
        omega
      · split at h
        · have inner := length_skipSpace_le r
          split at h
          · simp at h
          · next c more' hm =>
            simp only [hm, List.length_cons] at inner
            split at h
            · simp at h
            · simp only [Except.ok.injEq, Prod.mk.injEq] at h
              simp only [← h.2, List.length_cons]
              omega
        · simp at h

theorem readKey_length_lt {bs rest : Bytes} {name : String}
    (h : readKey bs = .ok (name, rest)) : rest.length < bs.length := by
  match bs with
  | [] => simp [readKey] at h
  | b :: bs =>
    simp only [readKey] at h
    split at h
    · exact Nat.lt_succ_of_lt (readString_length_lt h)
    · simp at h

theorem readMember_length_lt {layout : Layout} {seen : List String} {name : String}
    {bs rest : Bytes} {members : Members}
    (h : readMember layout seen name bs = .ok (members, rest)) : rest.length < bs.length := by
  unfold readMember at h
  split at h
  · split at h
    · simp at h
    · obtain ⟨r, hr, h⟩ := bind_eq_ok_iff.mp h
      obtain ⟨⟨cell, r'⟩, hr', h⟩ := bind_eq_ok_iff.mp h
      have := expectColon_length_lt hr
      have := readCell_length_lt hr'
      obtain rfl := snd_eq_of_ok h
      omega
  · obtain ⟨r, hr, h⟩ := bind_eq_ok_iff.mp h
    obtain ⟨r', hr', h⟩ := bind_eq_ok_iff.mp h
    have := expectColon_length_lt hr
    have := skipValue_length_lt hr'
    obtain rfl := snd_eq_of_ok h
    omega

/-- The members of a record from inside an object. -/
def readMembers (layout : Layout) (first : Bool) (seen : List String) (bs : Bytes) :
    Except ReadError (Members × Bytes) :=
  match _item : nextItem .object first bs with
  | .error e => .error e
  | .ok (false, rest) => .ok ([], rest)
  | .ok (true, rest) =>
    match _key : readKey rest with
    | .error e => .error e
    | .ok (name, rest) =>
      match _member : readMember layout seen name rest with
      | .error e => .error e
      | .ok (members, rest) =>
        match readMembers layout false (members.map Prod.fst ++ seen) rest with
        | .error e => .error e
        | .ok (others, rest) => .ok (members ++ others, rest)
termination_by bs.length
decreasing_by
  have := nextItem_length_le _item
  have := readKey_length_lt _key
  have := readMember_length_lt _member
  omega

/-- The members of the record at the head of a text. -/
def readRecord (layout : Layout) (bs : Bytes) : Except ReadError (Members × Bytes) :=
  match skipSpace bs with
  | [] => .error .truncated
  | b :: rest =>
    match openFrame? b with
    | some .array => readElements layout true rest
    | some .object => readMembers layout true [] rest
    | none => .error (wrongValue (b :: rest))

/-- What a text makes that holds a record and nothing else. Whether the members make it is
decided before the rest of the text is looked at. -/
def decodeRecord {α : Type} (layout : Layout) (make : Members → Except ReadError α)
    (bs : Bytes) : Except ReadError α := do
  let (members, rest) ← readRecord layout bs
  let a ← make members
  if skipSpace rest = [] then .ok a else .error .malformed

/-! ### Members by name -/

namespace Members

/-- The number of a member. -/
def number? (members : Members) (name : String) : Option Int :=
  match members.lookup name with
  | some (.number n) => some n
  | _ => none

/-- The text of a member. -/
def text? (members : Members) (name : String) : Option String :=
  match members.lookup name with
  | some (.text s) => some s
  | _ => none

/-- The instant of a member. -/
def instant? (members : Members) (name : String) : Option Instant :=
  match members.lookup name with
  | some (.instant i) => some i
  | _ => none

end Members

end Datebook.Json
