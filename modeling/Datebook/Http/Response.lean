import Datebook.Calendar
import Datebook.Event.Wire

/-!
# Responses

A response has a status and perhaps a body: an event, a list of events, a report of what
went wrong, or plain text. Failures of a database are reported without their wording.

## Main definitions

* `Datebook.Http.Content`: what a body holds, and its written form
* `Datebook.Http.Response`
* `Datebook.Http.Response.ofError`: the response to an error of the calendar
-/

namespace Datebook

/-- The status that reports an error of the calendar. -/
def CalendarError.status : CalendarError → Nat
  | .validation _ | .store (.validation _) => 400
  | .store (.notFound _) => 404
  | .store (.conflict _ _) => 409
  | .store (.database _) => 500
  | .timedOut _ _ => 504

namespace Http

/-- What a body holds. -/
inductive Content where
  | event (e : Event)
  | events (es : List Event)
  /-- What went wrong and, for a violated rule, the field at fault. -/
  | failure (message : String) (field : Option String)
  /-- The service is up. -/
  | health
  | text (s : String)
  deriving DecidableEq

namespace Content

/-- The version that the service reports. -/
def version : String := "0.1.0"

/-- The written form of a body. -/
def toChars : Content → List Char
  | .event e => e.toChars
  | .events es => Json.object [("data", Json.array (es.map Event.toChars))]
  | .failure message field =>
    Json.object (("error", Json.text message) ::
      field.toList.map fun name => ("field", Json.text name))
  | .health => Json.object [("status", Json.text "ok"), ("version", Json.text version)]
  | .text s => s.toList

/-- The written form of a body. -/
def body (c : Content) : String :=
  String.ofList c.toChars

/-- The type of a body. -/
def mediaType : Content → String
  | .text _ => "text/plain; charset=utf-8"
  | _ => "application/json"

end Content

/-- The answer to a request. -/
structure Response where
  status : Nat
  contentType : Option String := none
  content : Option Content := none
  /-- The methods that the path allows, where another was used. -/
  allow : Option (List String) := none
  deriving DecidableEq

namespace Response

/-- A response with a body. -/
def withContent (status : Nat) (content : Content) : Response :=
  { status, contentType := some content.mediaType, content := some content }

/-- The response without its body. -/
def withoutBody (r : Response) : Response :=
  { r with content := none }

/-- Nothing is to be found at the path. -/
def notFound : Response :=
  { status := 404 }

/-- The path does not allow the method. -/
def methodNotAllowed (allow : List String) : Response :=
  { status := 405, allow := some allow }

/-- There is nothing to give back. -/
def noContent : Response :=
  { status := 204 }

/-- A part of the request is wrong, as the text says. -/
def rejected (status : Nat) (text : String) : Response :=
  withContent status (.text text)

/-- A parameter of the request has no meaning. -/
def badRequest (message : String) : Response :=
  withContent 400 (.failure message none)

/-- The report on an error of the calendar. -/
def ofError (e : CalendarError) : Response :=
  withContent e.status <|
    match e with
    | .validation v | .store (.validation v) => .failure v.message (some v.field)
    | .store (.database _) => .failure "internal server error" none
    | e => .failure e.message none

end Response

end Http

end Datebook
