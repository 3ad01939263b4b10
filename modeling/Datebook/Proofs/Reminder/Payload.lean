import Datebook.Proofs.Json.Record
import Datebook.Reminder.Wire

/-!
# Reading back the payload of a reminder

A reminder is written as an object with four members of known kinds. With numbers of 64 bits it is
read as it was written, whatever its text and wherever its instant lies; only a leap second inside a
minute, which has no written form, comes back as a fraction of the second after it.

The written form begins with the id, as the value of the member that is called so. Whatever the rest
of the text holds, a reminder that is read from it has this id, also if it has more than 64 bits:
the first member is read as it was written, and a member that comes first is the one found under its
name.

## Main definitions

* `Datebook.Reminder.members`: the members of a reminder with their values.

## Main results

* `Datebook.Reminder.decode_payload`
* `Datebook.Reminder.id_eq_of_decode_payload`
-/

namespace Datebook

namespace Reminder

open Json

/-! ### The whole reminder -/

/-- The members of a reminder with their values. -/
def members (r : Reminder) : Members :=
  [("id", .number r.id), ("title", .text r.title), ("date", .instant r.date),
    ("userId", .number r.userId)]

theorem conforms_members {r : Reminder} (hid : inWord r.id = true)
    (huser : inWord r.userId = true) : Conforms layout r.members where
  nodup := by
    have hnames : r.members.map Prod.fst = ["id", "title", "date", "userId"] := rfl
    rw [hnames]
    decide
  fits := by
    simp only [members, List.forall_mem_cons]
    exact ⟨⟨.number, rfl, hid⟩, ⟨.text, rfl, trivial⟩, ⟨.instant, rfl, trivial⟩,
      ⟨.number, rfl, huser⟩, by simp⟩

/-- A reminder with numbers of 64 bits is read as what is written of it. -/
theorem decode_payload {r : Reminder} (hid : inWord r.id = true) (huser : inWord r.userId = true) :
    decode r.payload = .ok { r with date := r.date.asWritten } := by
  have hchars : r.toChars = object (r.members.map fun m => (m.1, m.2.toChars)) := rfl
  rw [payload, encode, bytesOf_ofList, hchars, decode,
    decodeRecord_object (conforms_members hid huser)]
  rfl

/-! ### The id, whatever its size -/

/-- The written form of a reminder begins with its id. -/
theorem exists_payload_eq (r : Reminder) : ∃ tail, r.payload =
    byte '\x7b' :: byte '"' :: byte 'i' :: byte 'd' :: byte '"' :: byte ':' ::
      (bytesOfChars (number r.id) ++ byte ',' :: tail) := by
  have hname : text "id" = ['"', 'i', 'd', '"'] := by decide
  let others : List Char := commaSeparated [member "title" (text r.title),
    member "date" (instant r.date), member "userId" (number r.userId)] ++ ['\x7d']
  have hchars : r.toChars =
      '\x7b' :: '"' :: 'i' :: 'd' :: '"' :: ':' :: (number r.id ++ ',' :: others) := by
    simp only [toChars, object, List.map_cons, List.map_nil, member, hname, commaSeparated,
      List.cons_append, List.append_assoc, List.nil_append, others]
  refine ⟨bytesOfChars others, ?_⟩
  rw [payload, encode, bytesOf_ofList, hchars]
  iterate 6 rw [bytesOfChars_cons (by decide)]
  rw [bytesOfChars_append, bytesOfChars_cons (by decide)]

/-- The members that are read from the written form of a reminder begin with its id. -/
theorem lookup_id_of_readRecord {r : Reminder} {members : Members} {rest : Bytes}
    (h : readRecord layout r.payload = .ok (members, rest)) :
    members.lookup "id" = some (.number r.id) := by
  obtain ⟨tail, hpayload⟩ := r.exists_payload_eq
  rw [hpayload] at h
  have hmembers : readMembers layout true [] (byte '"' :: byte 'i' :: byte 'd' :: byte '"' ::
      byte ':' :: (bytesOfChars (number r.id) ++ byte ',' :: tail)) = .ok (members, rest) := h
  have hnext (bs : Bytes) : nextItem .object true (byte '"' :: bs) = .ok (true, byte '"' :: bs) :=
    rfl
  have hname (bs : Bytes) :
      readKey (byte '"' :: byte 'i' :: byte 'd' :: byte '"' :: bs) = .ok ("id", bs) := rfl
  rcases readMembers_cases hmembers with ⟨hitem, -⟩ |
    ⟨atKey, name, atValue, found, left, others, hitem, hkey, hmember, -, rfl⟩
  · simp [hnext] at hitem
  · rw [hnext, Except.ok.injEq, Prod.mk.injEq] at hitem
    obtain ⟨-, rfl⟩ := hitem
    rw [hname, Except.ok.injEq, Prod.mk.injEq] at hkey
    obtain ⟨rfl, rfl⟩ := hkey
    have hknown : layout.lookup "id" = some .number := rfl
    rcases readMember_cases hmember with
      ⟨hnone, -⟩ | ⟨kind, atCell, cell, hkind, hcolon, hread, rfl⟩
    · simp [hknown] at hnone
    · obtain rfl : Kind.number = kind := Option.some.inj (hknown.symm.trans hkind)
      obtain rfl := Except.ok.inj hcolon
      obtain rfl := eq_of_readCell_number (endsNumber_comma tail) hread
      rfl

/-- A reminder that is read from the written form of another has its id. -/
theorem id_eq_of_decode_payload {r s : Reminder} (h : decode r.payload = .ok s) : s.id = r.id := by
  obtain ⟨⟨members, rest⟩, hrecord, h⟩ := bind_eq_ok_iff.mp h
  obtain ⟨t, ht, h⟩ := bind_eq_ok_iff.mp h
  have hid : members.number? "id" = some r.id := by
    rw [Members.number?, lookup_id_of_readRecord hrecord]
  split at h
  · obtain rfl := Except.ok.inj h
    rw [ofMembers, hid] at ht
    split at ht
    · next id _ _ _ hsome _ _ _ =>
      obtain rfl := Except.ok.inj ht
      exact (Option.some.inj hsome).symm
    · simp at ht
  · simp at h

end Reminder

end Datebook
