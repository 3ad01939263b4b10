import Datebook.Http.MediaType
import Datebook.Http.Response
import Datebook.Instant.Strict
import Datebook.Text.Blank
import Datebook.Text.Percent
import Datebook.Text.Quoted

/-!
# Requests

A request names a method and a target, which is a path and perhaps a query, with or without
the host before them, and may carry a body with a content type. What a handler needs is read
from it part by part; a part that cannot be read is answered with a response of its own.

## Main definitions

* `Datebook.Http.Request`, `Datebook.Http.Request.ofTarget`
* `Datebook.Http.readNumber`: a number in a path
* `Datebook.Http.Request.dateText`, `Datebook.Http.readDate`: the date of a view
* `Datebook.Http.Request.readEvent`: the event in the body
-/

namespace Datebook.Http

open Json (Bytes byte bytesOf textOf?)
open Text (percentDecode formPairs splitFirst)

/-- What a request asks to be done. -/
inductive Method where
  | get
  | head
  | post
  | put
  | delete
  | other
  deriving DecidableEq, Repr

/-- The method with a name. -/
def Method.ofName (name : String) : Method :=
  if name = "GET" then .get
  else if name = "HEAD" then .head
  else if name = "POST" then .post
  else if name = "PUT" then .put
  else if name = "DELETE" then .delete
  else .other

/-- A request. -/
structure Request where
  method : Method
  path : String
  query : String := ""
  contentType : Option String := none
  body : Bytes := []
  deriving DecidableEq

/-- A character of the scheme that a target may begin with. -/
def isSchemeChar (c : Char) : Bool :=
  c.isAlphanum || "+-.~".toList.contains c

/-- What a target says of the place at a host: a target that begins with a scheme and the
mark `://` names the host first, up to where path, query or fragment begins. -/
def withoutHost (target : List Char) : List Char :=
  match target.dropWhile isSchemeChar with
  | ':' :: '/' :: '/' :: rest => rest.dropWhile fun c => c != '/' && c != '?' && c != '#'
  | _ => target

/-- The request for a target: path and query follow the host, if one is named, and stand
before any fragment, with a question mark between them. -/
def Request.ofTarget (method : Method) (target : String) (contentType : Option String)
    (body : Bytes) : Request :=
  let (path, query) := splitFirst '?' (splitFirst '#' (withoutHost target.toList)).1
  { method, path := String.ofList path, query := String.ofList query, contentType, body }

/-! ### Paths -/

/-- The number that a segment of a path stands for. -/
def readNumber (name segment : String) : Except Response Int :=
  match textOf? (percentDecode (bytesOf segment)) with
  | none => .error (.rejected 400 ("Invalid URL: Invalid UTF-8 in `" ++ name ++ "`"))
  | some text =>
    match Numeral.readInt Numeral.maxInt64 text.toList with
    | .ok n => .ok n
    | .error _ => .error (.rejected 400 ("Invalid URL: Cannot parse `" ++ text ++ "` to a `i64`"))

/-! ### Queries -/

/-- The query has no single pair named `date`. -/
def wrongQuery (problem : String) : Response :=
  .rejected 400 ("Failed to deserialize query string: " ++ problem)

/-- The text of the query's date. -/
def Request.dateText (r : Request) : Except Response String :=
  match (formPairs r.query).filter (·.1 == "date") with
  | [] => .error (wrongQuery "missing field `date`")
  | [pair] => .ok pair.2
  | _ => .error (wrongQuery "duplicate field `date`")

/-- The instant that a date stands for: an instant in the strict form, or the midnight of a
plain date. White space around it counts for nothing. -/
def date? (text : String) : Option Instant :=
  let cs := Text.trimChars text.toList
  (Instant.ofStrict? cs).or (Instant.ofPlainDate? cs)

/-- The instant of a date in a query. -/
def readDate (text : String) : Except Response Instant :=
  match date? text with
  | some i => .ok i
  | none => .error (.badRequest ("wrong date: " ++ Text.quoted (Text.trim text) ++
      ", expected RFC 3339 or YYYY-MM-DD"))

/-! ### Bodies -/

/-- The most bytes a body may have. -/
def maxBodyLength : Nat := 2097152

/-- The event in the body, which has to be announced as JSON. -/
def Request.readEvent (r : Request) : Except Response Event :=
  if !r.contentType.any isJsonType then
    .error (.rejected 415 "Expected request with `Content-Type: application/json`")
  else if maxBodyLength < r.body.length then
    .error (.rejected 413 "Failed to buffer the request body: length limit exceeded")
  else match Event.decode r.body with
    | .ok e => .ok e
    | .error .mismatch =>
      .error (.rejected 422 "Failed to deserialize the JSON body into the target type")
    | .error _ => .error (.rejected 400 "Failed to parse the request body as JSON")

end Datebook.Http
