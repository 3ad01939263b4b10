import Datebook.Event
import Datebook.Json.Printer
import Datebook.Json.Record

/-!
# The written form of an event

An event is written as an object with its members in a fixed order; the time of a reminder
appears only where one is asked for. Whether the reminder was delivered is not written, and
an event that is read has not had it. Every member may be left out.

## Main definitions

* `Datebook.Event.encode`: the written form
* `Datebook.Event.decode`: reading it
-/

namespace Datebook.Event

open Json (Kind Layout Members ReadError Bytes)

/-- The members of an event. -/
def layout : Layout :=
  [("id", .number), ("userId", .number), ("title", .text), ("description", .text),
    ("onTime", .instant), ("offTime", .instant), ("notifyTime", .optionalInstant)]

/-- The written form of an event. -/
def toChars (e : Event) : List Char :=
  Json.object ([("id", Json.number e.id), ("userId", Json.number e.userId),
    ("title", Json.text e.title), ("description", Json.text e.description),
    ("onTime", Json.instant e.onTime), ("offTime", Json.instant e.offTime)] ++
      e.notifyTime.toList.map fun t => ("notifyTime", Json.instant t))

/-- The written form of an event. -/
def encode (e : Event) : String :=
  String.ofList e.toChars

/-- The event with the given members. -/
def ofMembers (members : Members) : Event where
  id := (members.number? "id").getD 0
  userId := (members.number? "userId").getD 0
  title := (members.text? "title").getD ""
  description := (members.text? "description").getD ""
  onTime := (members.instant? "onTime").getD .epoch
  offTime := (members.instant? "offTime").getD .epoch
  notifyTime := members.instant? "notifyTime"

/-- The event that a text holds. -/
def decode (bs : Bytes) : Except ReadError Event :=
  Json.decodeRecord layout (fun members => .ok (ofMembers members)) bs

end Datebook.Event
