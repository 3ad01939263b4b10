import Datebook.Event.Wire
import Datebook.Proofs.Json.Record

/-!
# Reading back an event

An event is written as an object with members of known kinds, that of the reminder's time only where
one is asked for. Read again, it is the event that was written, except that its reminder counts as
not delivered: what is left out of the text comes back as the value that stands for nothing given.
Two events are therefore written alike only if they differ in the delivery of the reminder at most.

The other way round, whatever text an event is read from, the event can be written: the reader takes
only numbers of 64 bits, and a leap second that it reads ends a minute.

## Main definitions

* `Datebook.Event.members`: the members of an event with their values.
* `Datebook.Event.Representable`: numbers of 64 bits, and instants that a text stands for.

## Main results

* `Datebook.Event.decode_encode`
* `Datebook.Event.representable_of_decode`
* `Datebook.Event.read_as_written`
-/

namespace Datebook

namespace Json

/-! ### What can be read -/

/-- The value is one that a text can stand for. -/
def Cell.Representable : Cell → Prop
  | .number n => inWord n = true
  | .instant i => i.LeapEndsMinute
  | .text _ | .null => True

theorem inWord_of_readInteger {bs rest : Bytes} {n : Int} (h : readInteger bs = .ok (n, rest)) :
    inWord n = true := by
  obtain ⟨⟨m, r⟩, -, hm⟩ := bind_eq_ok_iff.mp h
  match m with
  | none => simp at hm
  | some m =>
    dsimp only at hm
    split at hm
    · next hword =>
      simp only [Except.ok.injEq, Prod.mk.injEq] at hm
      exact hm.1 ▸ hword
    · simp at hm

theorem representable_of_readInstant {bs rest : Bytes} {cell : Cell}
    (h : readInstant bs = .ok (cell, rest)) : cell.Representable := by
  obtain ⟨⟨s, r⟩, -, hs⟩ := bind_eq_ok_iff.mp h
  dsimp only at hs
  split at hs
  · next i hi =>
    simp only [Except.ok.injEq, Prod.mk.injEq] at hs
    exact hs.1 ▸ Instant.leapEndsMinute_iff.mpr ⟨s, hi⟩
  · simp at hs

/-- Every value that is read can be written. -/
theorem representable_of_readCell {kind : Kind} {bs rest : Bytes} {cell : Cell}
    (h : readCell kind bs = .ok (cell, rest)) : cell.Representable := by
  rw [readCell] at h
  split at h
  · simp at h
  · rw [readCellFrom] at h
    split at h
    · obtain ⟨⟨n, r⟩, hn, h⟩ := bind_eq_ok_iff.mp h
      simp only [Except.ok.injEq, Prod.mk.injEq] at h
      exact h.1 ▸ inWord_of_readInteger hn
    split at h
    · obtain ⟨⟨s, r⟩, -, h⟩ := bind_eq_ok_iff.mp h
      simp only [Except.ok.injEq, Prod.mk.injEq] at h
      exact h.1 ▸ trivial
    split at h
    · exact representable_of_readInstant h
    split at h
    · obtain ⟨r, -, h⟩ := bind_eq_ok_iff.mp h
      simp only [Except.ok.injEq, Prod.mk.injEq] at h
      exact h.1 ▸ trivial
    · simp at h

theorem representable_of_readElements {layout : Layout} {first : Bool} {bs rest : Bytes}
    {members : Members} (h : readElements layout first bs = .ok (members, rest)) :
    ∀ m ∈ members, m.2.Representable := by
  induction layout generalizing first bs rest members with
  | nil =>
    obtain ⟨r, -, h⟩ := bind_eq_ok_iff.mp h
    simp only [Except.ok.injEq, Prod.mk.injEq] at h
    simp [← h.1]
  | cons known layout ih =>
    obtain ⟨⟨more, atCell⟩, -, h⟩ := bind_eq_ok_iff.mp h
    dsimp only at h
    split at h
    · obtain ⟨⟨cell, left⟩, hcell, h⟩ := bind_eq_ok_iff.mp h
      obtain ⟨⟨others, r⟩, hothers, h⟩ := bind_eq_ok_iff.mp h
      simp only [Except.ok.injEq, Prod.mk.injEq] at h
      rw [← h.1, List.forall_mem_cons]
      exact ⟨representable_of_readCell hcell, ih hothers⟩
    · simp only [Except.ok.injEq, Prod.mk.injEq] at h
      simp [← h.1]

theorem representable_of_readMembers {layout : Layout} {first : Bool} {seen : List String}
    {bs rest : Bytes} {members : Members}
    (h : readMembers layout first seen bs = .ok (members, rest)) :
    ∀ m ∈ members, m.2.Representable := by
  -- The members after the first are read from a shorter text.
  induction hn : bs.length using Nat.strongRecOn generalizing first seen bs rest members with
  | _ n ih =>
    rcases readMembers_cases h with ⟨-, rfl⟩ |
      ⟨atKey, name, atValue, found, left, others, hitem, hkey, hmember, hothers, rfl⟩
    · simp
    · have hshorter : left.length < n := by
        have := nextItem_length_le hitem
        have := readKey_length_lt hkey
        have := readMember_length_lt hmember
        omega
      rw [List.forall_mem_append]
      refine ⟨?_, ih _ hshorter hothers rfl⟩
      rcases readMember_cases hmember with
        ⟨-, rfl⟩ | ⟨kind, atCell, cell, -, -, hcell, rfl⟩
      · simp
      · simpa using representable_of_readCell hcell

/-- Every member of a record that is read can be written. -/
theorem representable_of_readRecord {layout : Layout} {bs rest : Bytes} {members : Members}
    (h : readRecord layout bs = .ok (members, rest)) : ∀ m ∈ members, m.2.Representable := by
  rw [readRecord] at h
  split at h
  · simp at h
  · split at h
    · exact representable_of_readElements h
    · exact representable_of_readMembers h
    · simp at h

theorem mem_of_lookup_eq_some {members : Members} {name : String} {cell : Cell}
    (h : members.lookup name = some cell) : (name, cell) ∈ members := by
  obtain ⟨before, after, rfl, -⟩ := List.lookup_eq_some_iff.mp h
  simp

end Json

namespace Event

open Json

/-- Numbers of 64 bits, and instants that a text stands for (`Instant.leapEndsMinute_iff`). -/
structure Representable (e : Event) : Prop where
  id : inWord e.id = true
  userId : inWord e.userId = true
  onTime : e.onTime.LeapEndsMinute
  offTime : e.offTime.LeapEndsMinute
  notifyTime : ∀ t ∈ e.notifyTime, t.LeapEndsMinute

/-! ### Writing and reading -/

/-- The members of an event with their values. -/
def members (e : Event) : Members :=
  [("id", .number e.id), ("userId", .number e.userId), ("title", .text e.title),
    ("description", .text e.description), ("onTime", .instant e.onTime),
    ("offTime", .instant e.offTime)] ++
      e.notifyTime.toList.map fun t => ("notifyTime", .instant t)

theorem conforms_members {e : Event} (hid : inWord e.id = true) (huser : inWord e.userId = true) :
    Conforms layout e.members where
  nodup := by
    cases hnotify : e.notifyTime <;> simp [members, hnotify]
  fits := by
    have hreminder : ∀ m ∈ e.notifyTime.toList.map fun t => ("notifyTime", Cell.instant t),
        ∃ kind, layout.lookup m.1 = some kind ∧ m.2.Fits kind := by
      intro m hm
      obtain ⟨t, -, rfl⟩ := List.mem_map.mp hm
      exact ⟨.optionalInstant, rfl, trivial⟩
    simp only [members, List.cons_append, List.nil_append, List.forall_mem_cons]
    exact ⟨⟨.number, rfl, hid⟩, ⟨.number, rfl, huser⟩, ⟨.text, rfl, trivial⟩, ⟨.text, rfl, trivial⟩,
      ⟨.instant, rfl, trivial⟩, ⟨.instant, rfl, trivial⟩, hreminder⟩

/-- The event that the written form of an event stands for. -/
def asWritten (e : Event) : Event :=
  { e with
    onTime := e.onTime.asWritten
    offTime := e.offTime.asWritten
    notifyTime := e.notifyTime.map Instant.asWritten
    notified := false }

/-- An event with numbers of 64 bits is read as what is written of it. -/
theorem decode_encode {e : Event} (hid : inWord e.id = true) (huser : inWord e.userId = true) :
    decode (bytesOf e.encode) = .ok e.asWritten := by
  have hchars : e.toChars = object (e.members.map fun m => (m.1, m.2.toChars)) := by
    rw [toChars, members, List.map_append, List.map_map]
    rfl
  rw [encode, bytesOf_ofList, hchars, decode, decodeRecord_object (conforms_members hid huser)]
  cases hnotify : e.notifyTime <;> simp only [members, asWritten, hnotify] <;> rfl

theorem asWritten_of_representable {e : Event} (h : e.Representable) :
    e.asWritten = { e with notified := false } := by
  have hreminder : e.notifyTime.map Instant.asWritten = e.notifyTime := by
    cases hnotify : e.notifyTime with
    | none => rfl
    | some t => exact congrArg some (Instant.asWritten_eq_self (h.notifyTime t hnotify))
  rw [asWritten, Instant.asWritten_eq_self h.onTime, Instant.asWritten_eq_self h.offTime, hreminder]

/-- Whether the reminder was delivered is not written. -/
theorem encode_of_eq {d e : Event}
    (h : { d with notified := false } = { e with notified := false }) : d.encode = e.encode := by
  have hsame (e : Event) : ({ e with notified := false } : Event).encode = e.encode := rfl
  rw [← hsame d, h, hsame]

/-! ### What was read can be written -/

theorem inWord_number? {members : Members} (h : ∀ m ∈ members, m.2.Representable) (name : String) :
    inWord ((members.number? name).getD 0) = true := by
  rw [Members.number?]
  split
  · next n hlookup => exact h _ (mem_of_lookup_eq_some hlookup)
  · decide

theorem leapEndsMinute_epoch : Instant.epoch.LeapEndsMinute := by
  simp [Instant.LeapEndsMinute, Instant.isLeapSecond, Instant.epoch]

theorem leapEndsMinute_instant? {members : Members} (h : ∀ m ∈ members, m.2.Representable)
    {name : String} {i : Instant} (hi : members.instant? name = some i) : i.LeapEndsMinute := by
  rw [Members.instant?] at hi
  split at hi
  · next j hlookup =>
    obtain rfl := Option.some.inj hi
    exact h _ (mem_of_lookup_eq_some hlookup)
  · simp at hi

theorem leapEndsMinute_instant?_getD {members : Members} (h : ∀ m ∈ members, m.2.Representable)
    (name : String) : ((members.instant? name).getD .epoch).LeapEndsMinute := by
  cases hi : members.instant? name with
  | none => exact leapEndsMinute_epoch
  | some i => exact leapEndsMinute_instant? h hi

/-- An event that is read can be written, and its reminder counts as not delivered. -/
theorem representable_of_decode {bs : Bytes} {e : Event} (h : decode bs = .ok e) :
    e.Representable ∧ e.notified = false := by
  obtain ⟨⟨members, rest⟩, hread, h⟩ := bind_eq_ok_iff.mp h
  obtain ⟨made, hmade, h⟩ := bind_eq_ok_iff.mp h
  obtain rfl := Except.ok.inj hmade
  split at h
  · obtain rfl := Except.ok.inj h
    have hmembers := representable_of_readRecord hread
    refine ⟨?_, rfl⟩
    exact {
      id := inWord_number? hmembers "id"
      userId := inWord_number? hmembers "userId"
      onTime := leapEndsMinute_instant?_getD hmembers "onTime"
      offTime := leapEndsMinute_instant?_getD hmembers "offTime"
      notifyTime := fun t ht => leapEndsMinute_instant? hmembers ht }
  · simp at h

/-- **An event is read as it was written.** An event is read from its written form as it is, except
that its reminder counts as not delivered, exactly if its numbers have 64 bits and its instants,
leap seconds included, are such that a text can stand for them. Two such events have the same
written form exactly if they are the same up to the delivery of the reminder, and a reminder is read
exactly where one was asked for. -/
theorem read_as_written (e : Event) :
    (decode (bytesOf e.encode) = .ok { e with notified := false } ↔ e.Representable) ∧
      (e.Representable →
        (∀ d : Event, d.Representable →
          (d.encode = e.encode ↔ { d with notified := false } = { e with notified := false })) ∧
        ∀ d, decode (bytesOf e.encode) = .ok d → (d.notifyTime = none ↔ e.notifyTime = none)) := by
  have hread {e : Event} (h : e.Representable) :
      decode (bytesOf e.encode) = .ok { e with notified := false } := by
    rw [decode_encode h.id h.userId, asWritten_of_representable h]
  refine ⟨⟨fun hback => ?_, hread⟩, fun h => ⟨fun d hd => ⟨fun hsame => ?_, encode_of_eq⟩, ?_⟩⟩
  · -- What differs only in the delivery of the reminder can be written as well.
    obtain ⟨hmade, -⟩ := representable_of_decode hback
    exact { hmade with }
  · have hboth : (Except.ok { d with notified := false } : Except ReadError Event) =
        .ok { e with notified := false } := by
      rw [← hread hd, ← hread h, hsame]
    exact Except.ok.inj hboth
  · intro d hd
    obtain rfl := Except.ok.inj ((hread h).symm.trans hd)
    exact Iff.rfl

/-- An event with the least and the largest number, texts that have to be escaped, a beginning that
was not given, an end in a leap second, a reminder in a year before 0, and a delivered reminder. -/
def demanding : Event where
  id := -9223372036854775808
  userId := 9223372036854775807
  title := "\"\\\n\x01é😀"
  offTime := (Instant.of? 95026236 86399 1000000001).getD .epoch
  notifyTime := some ((Instant.of? (-719529) 3600 120000000).getD .epoch)
  notified := true

/-- The demanding event is read as it was written, but for the delivery of its reminder. -/
theorem demanding_read_as_written :
    demanding.Representable ∧
      decode (bytesOf demanding.encode) = .ok { demanding with notified := false } ∧
        demanding.encode ≠ ({ demanding with notifyTime := none } : Event).encode := by
  have hdemanding : demanding.Representable := {
    id := by decide
    userId := by decide
    onTime := leapEndsMinute_epoch
    offTime := fun _ => rfl
    notifyTime := by
      rintro t ht
      obtain rfl := Option.some.inj ht
      exact fun hleap => absurd hleap (by decide) }
  obtain ⟨hread, hmore⟩ := read_as_written demanding
  refine ⟨hdemanding, hread.mpr hdemanding, fun h => ?_⟩
  have hsilent : ({ demanding with notifyTime := none } : Event).Representable :=
    { hdemanding with notifyTime := by simp }
  have hsame := ((hmore hdemanding).1 _ hsilent).mp h.symm
  exact absurd (congrArg notifyTime hsame) (by simp [demanding])

end Event

end Datebook
