import BoxOffice.Client.Call
import BoxOffice.Client.Settings
import BoxOffice.Inspect.Basic

/-!
# Inspections of the client

Requests, responses, endpoints, sites, settings, criteria and failures.

* `inspectTime ms` -- a time in milliseconds: in seconds with their fraction from one second on, in
  milliseconds below, and `0ns` for none;
* `inspectSites sites` -- a client with the sites of its three resources, at rest.
-/

namespace BoxOffice

open BoxOffice.Client
open BoxOffice.Text

/-! ## 1. Requests and responses -/

instance : Inspect Method :=
  ⟨fun
    | .get => .word "Get"
    | .post => .word "Post"
    | .put => .word "Put"
    | .patch => .word "Patch"
    | .delete => .word "Delete"⟩

instance : Inspect ResponseKind :=
  ⟨fun
    | .json => .word "Json"
    | .empty => .word "Empty"⟩

instance : Inspect Endpoint :=
  ⟨fun e => .record "Endpoint"
    [("name", inspect e.name), ("method", inspect e.method), ("path", inspect e.path),
     ("response", inspect e.response)]⟩

instance : Inspect Request :=
  ⟨fun r => .record "HttpRequest"
    [("method", inspect r.method), ("url", inspect r.url), ("query", inspect r.query),
     ("headers", inspect r.headers), ("body", inspect r.body)]⟩

instance : Inspect Response :=
  ⟨fun r => .record "HttpResponse"
    [("status", inspect r.status), ("headers", inspect r.headers), ("body", inspect r.body)]⟩

/-! ## 2. Criteria -/

instance : Inspect Criterion :=
  ⟨fun
    | .absent => .word "Absent"
    | .text s => .variant "Str" [inspect s]
    | .integer n => .variant "Int" [inspect n]
    | .natural n => .variant "UInt" [inspect n]
    | .float x => .variant "Float" [inspect x]
    | .boolean b => .variant "Bool" [inspect b]⟩

instance : Inspect Criteria :=
  ⟨fun c => .record "SearchParams" [("pairs", inspect c.pairs)]⟩

/-! ## 3. Failures -/

instance : Inspect Failure :=
  ⟨fun
    | .notFound => .word "NotFound"
    | .status code body =>
      .record "HttpError" [("status", inspect code), ("body", inspect body)]
    | .unreadable why => .variant "DeserializationError" [inspect why]
    | .unwritable why => .variant "SerializationError" [inspect why]
    | .missingArgument name => .variant "MissingPathParam" [inspect name]
    | .transport why => .variant "Transport" [inspect why]⟩

instance : Inspect SettingsFault :=
  ⟨fun
    | .missing name => .variant "Missing" [inspect name]
    | .invalid name expected value =>
      .record "Invalid"
        [("name", inspect name), ("expected", inspect expected), ("value", inspect value)]⟩

/-! ## 4. Sites and settings -/

instance : Inspect Site :=
  ⟨fun s => .record "Service"
    [("root", inspect s.root), ("default_headers", inspect s.headers)]⟩

/-- The title of a resource. -/
def resourceTitle : Resource → String
  | .location => "LocationService"
  | .order => "OrderService"
  | .ticket => "TicketService"

/-- The site of a resource. -/
def inspectSite (r : Resource) (s : Site) : Inspection :=
  .record (resourceTitle r) [("service", inspect s)]

/-- A client at rest. -/
def inspectSites (s : Sites) : Inspection :=
  .record "TicketlineClient"
    [("location", inspectSite .location s.location), ("order", inspectSite .order s.order),
     ("ticket", inspectSite .ticket s.ticket), ("transport", .word "Idle")]

/-- The three digits of a number of milliseconds below a second, without zeros at the end. -/
def millisecondDigits (ms : Nat) : List Char :=
  dropEndWhile (· == '0')
    [Nat.digitChar (ms / 100), Nat.digitChar (ms / 10 % 10), Nat.digitChar (ms % 10)]

/-- A time in milliseconds. -/
def inspectTime (ms : Nat) : Inspection :=
  let seconds := Number.natDigits (ms / 1000)
  if ms = 0 then .word "0ns"
  else if ms < 1000 then .word (String.ofList (Number.natDigits ms ++ ['m', 's']))
  else match millisecondDigits (ms % 1000) with
    | [] => .word (String.ofList (seconds ++ ['s']))
    | ds => .word (String.ofList (seconds ++ '.' :: ds ++ ['s']))

instance : Inspect Settings :=
  ⟨fun s => .record "ClientConfig"
    [("base_url", inspect s.baseUrl), ("bearer_token", inspect s.token),
     ("timeout", inspectTime s.timeout)]⟩

end BoxOffice
