import Datebook.Http.Request

/-!
# Routes

The paths of the service and what is done at each of them. A request for a day or a week of
which a part lies outside the range of instants is abandoned and has no response.

## Main definitions

* `Datebook.Http.Route`, `Datebook.Http.Route.ofPath?`
* `Datebook.Http.respond?`: the response to a request
-/

namespace Datebook.Http

/-- Which of a user's events are asked for. -/
inductive View where
  | all
  | day
  | week
  | month
  deriving DecidableEq, Repr

/-- The paths of the service, with the segments that name an event or a user. -/
inductive Route where
  | health
  | events
  | event (id : String)
  | ofUser (userId : String) (view : View)
  deriving DecidableEq, Repr

namespace Route

/-- The route of a path by its segments. An event is named by a segment that is not empty. -/
def ofSegments? : List String → Option Route
  | ["health"] => some .health
  | ["v1", "events"] => some .events
  | ["v1", "events", id] => if id = "" then none else some (.event id)
  | ["v1", "users", userId, "events"] => some (.ofUser userId .all)
  | ["v1", "users", userId, "events", "day"] => some (.ofUser userId .day)
  | ["v1", "users", userId, "events", "week"] => some (.ofUser userId .week)
  | ["v1", "users", userId, "events", "month"] => some (.ofUser userId .month)
  | _ => none

/-- The route of a path. -/
def ofPath? (path : String) : Option Route :=
  match path.toList with
  | '/' :: cs => ofSegments? ((Text.splitAll '/' cs).map String.ofList)
  | _ => none

/-- The methods that a route allows. -/
def allowed : Route → List String
  | .events => ["POST"]
  | .event _ => ["DELETE", "GET", "HEAD", "PUT"]
  | .health | .ofUser _ _ => ["GET", "HEAD"]

end Route

/-! ### Handlers -/

/-- The response that a result of the calendar is given. -/
def conclude {α : Type} (ok : α → Response) (r : Routine (Except CalendarError α)) :
    Routine Response :=
  r.bind fun
    | .ok a => .done (ok a)
    | .error e => .done (.ofError e)

/-- Store the event in the body. -/
def create (cal : Calendar) (r : Request) : Routine Response :=
  match r.readEvent with
  | .error response => .done response
  | .ok e => conclude (fun e => .withContent 201 (.event e)) (cal.insert e)

/-- The event with an id. -/
def fetch (cal : Calendar) (id : Int) : Routine Response :=
  conclude (fun e => .withContent 200 (.event e)) (cal.get id)

/-- Change the event with an id to the event in the body, whatever id that has. -/
def replace (cal : Calendar) (id : Int) (r : Request) : Routine Response :=
  match r.readEvent with
  | .error response => .done response
  | .ok e => (cal.update { e with id := id }).bind fun
    | .error e => .done (.ofError e)
    | .ok () => fetch cal id

/-- Remove the event with an id. -/
def remove (cal : Calendar) (id : Int) : Routine Response :=
  conclude (fun _ => .noContent) (cal.delete id)

/-- The events of a user in a view around a date. -/
def view? (cal : Calendar) (userId : Int) (view : View) (date : Instant) :
    Option (Routine (Except CalendarError (List Event))) :=
  match view with
  | .all => some (cal.all userId)
  | .day => cal.day? userId date
  | .week => cal.week? userId date
  | .month => cal.month? userId date

/-- The events of a user; a view other than that of all events asks for a date. -/
def list? (cal : Calendar) (userId : Int) (view : View) (r : Request) :
    Option (Routine Response) :=
  let listed := (·.map (conclude fun es => .withContent 200 (.events es)))
  match view with
  | .all => listed (some (cal.all userId))
  | view =>
    match r.dateText.bind readDate with
    | .error response => some (.done response)
    | .ok date => listed (view? cal userId view date)

/-- Go on with the number that a segment of the path stands for. -/
def withNumber (name segment : String) (go : Int → Option (Routine Response)) :
    Option (Routine Response) :=
  match readNumber name segment with
  | .error response => some (.done response)
  | .ok n => go n

/-- The response to a request for what a route holds. -/
def show? (cal : Calendar) (r : Request) : Route → Option (Routine Response)
  | .health => some (.done (.withContent 200 .health))
  | .event id => withNumber "id" id fun id => some (fetch cal id)
  | .ofUser userId view => withNumber "user_id" userId fun userId => list? cal userId view r
  | .events => some (.done (.methodNotAllowed Route.events.allowed))

/-- The response to a request for a route. A request for the head of what a route holds is
answered like one for all of it, without the body. -/
def handle? (cal : Calendar) (r : Request) (route : Route) : Option (Routine Response) :=
  match r.method, route with
  | .get, route => show? cal r route
  | .head, route =>
    (show? cal r route).map fun routine => routine.bind fun response => .done response.withoutBody
  | .post, .events => some (create cal r)
  | .put, .event id => withNumber "id" id fun id => some (replace cal id r)
  | .delete, .event id => withNumber "id" id fun id => some (remove cal id)
  | _, route => some (.done (.methodNotAllowed route.allowed))

/-- The response to a request. -/
def respond? (cal : Calendar) (r : Request) : Option (Routine Response) :=
  match Route.ofPath? r.path with
  | none => some (.done .notFound)
  | some route => handle? cal r route

end Datebook.Http
