import Datebook.Event
import Datebook.Json.Printer
import Datebook.Json.Record

/-!
# The written form of a reminder

A reminder is written as an object with all four of its members, and read only where none
is missing.

## Main definitions

* `Datebook.Reminder.encode`: the written form
* `Datebook.Reminder.decode`: reading it
-/

namespace Datebook.Reminder

open Json (Kind Layout Members ReadError Bytes)

/-- The members of a reminder. -/
def layout : Layout :=
  [("id", .number), ("title", .text), ("date", .instant), ("userId", .number)]

/-- The written form of a reminder. -/
def toChars (r : Reminder) : List Char :=
  Json.object [("id", Json.number r.id), ("title", Json.text r.title),
    ("date", Json.instant r.date), ("userId", Json.number r.userId)]

/-- The written form of a reminder. -/
def encode (r : Reminder) : String :=
  String.ofList r.toChars

/-- The written form of a reminder in UTF-8. -/
def payload (r : Reminder) : Bytes :=
  Json.bytesOf r.encode

/-- The reminder with the given members, where none is missing. -/
def ofMembers (members : Members) : Except ReadError Reminder :=
  match members.number? "id", members.text? "title", members.instant? "date",
    members.number? "userId" with
  | some id, some title, some date, some userId => .ok ⟨id, title, date, userId⟩
  | _, _, _, _ => .error .mismatch

/-- The reminder that a text holds. -/
def decode (bs : Bytes) : Except ReadError Reminder :=
  Json.decodeRecord layout ofMembers bs

end Datebook.Reminder
