import BoxOffice.Server.MediaType
import BoxOffice.Server.Wire
import BoxOffice.Store.Sale
import BoxOffice.Store.Search
import BoxOffice.Text.AsciiCase

/-!
# Answering requests

A request is answered in four steps, each of which may end it: its path names a resource, the resource
has the method, the arguments can be read, the store grants the request.

* `answer s r` -- the reply to the request `r`, and the store afterwards;
* `answers s rs` -- the replies to requests in their order;
* `Rejection` -- why arguments cannot be read.
-/

namespace BoxOffice.Server

open BoxOffice.Json

/-! ## 1. Requests and replies -/

/-- A request as it arrives. Its headers and its body are texts, so bytes that are not UTF-8 stand outside the
    model. -/
structure Request where
  method : String
  uri : String
  headers : List (String × String)
  body : String
  deriving DecidableEq, Repr

/-- A reply. -/
structure Reply where
  status : Nat
  contentType : Option String
  allow : Option String
  body : String
  deriving DecidableEq, Repr

/-- A reply that is a status and nothing else. -/
def Reply.bare (status : Nat) : Reply := ⟨status, none, none, ""⟩

/-- A reply with a JSON value. -/
def Reply.json (status : Nat) (v : Value) : Reply := ⟨status, some "application/json", none, v.write⟩

/-- A reply with a text. -/
def Reply.text (status : Nat) (s : String) : Reply :=
  ⟨status, some "text/plain; charset=utf-8", none, s⟩

/-- The reply to a method that the resource does not have. -/
def Reply.notAllowed (r : Route) : Reply := ⟨405, none, some r.allowed, ""⟩

/-- The reply without its body. -/
def Reply.head (r : Reply) : Reply := { r with body := "" }

/-- The status of a refusal. -/
def refusalStatus : Refusal → Nat
  | .emptyPage => 400
  | .notFound => 404
  | .conflict => 409
  | .unprocessable => 422

/-! ## 2. Arguments -/

/-- Why the arguments of a request cannot be read. -/
inductive Rejection where
  | path (f : PathFault)
  | query (f : QueryFault)
  /-- the body is not said to be JSON -/
  | mediaType
  /-- the body exceeds the greatest size -/
  | tooLong
  | body (p : Problem)
  deriving DecidableEq, Repr

/-- The reply to a request whose arguments cannot be read: a body that is JSON of another shape is
    unprocessable, all else is a bad request, an unsupported media type or too much. -/
def Rejection.reply : Rejection → Reply
  | .path f => .text 400 f.message
  | .query f => .text 400 f.message
  | .mediaType => .text 415 "Expected request with `Content-Type: application/json`"
  | .tooLong => .text 413 "Failed to buffer the request body: length limit exceeded"
  | .body p =>
    if p.fault.isShape then
      .text 422 ("Failed to deserialize the JSON body into the target type: " ++ p.message)
    else .text 400 ("Failed to parse the request body as JSON: " ++ p.message)

/-- The greatest size of a body, in bytes. -/
def bodyLimit : Nat := 2097152

/-- What a reader reads from the body of a request. -/
def Request.jsonBody {α : Type} (r : Request) (reader : Reader α) : Except Rejection α :=
  if (Text.firstNamed "content-type" r.headers).any isJson then
    if r.body.utf8ByteSize ≤ bodyLimit then (Reader.read reader r.body).mapError .body
    else .error .tooLong
  else .error .mediaType

/-! ## 3. Replies of the store -/

/-- The reply to a request that the store granted or refused. -/
def granted {α : Type} (reply : α → Reply) : Except Refusal α → Reply
  | .ok a => reply a
  | .error r => .bare (refusalStatus r)

/-- The reply to a request whose arguments could be read or not. -/
def withArguments {α : Type} (s : Store) (arguments : Except Rejection α)
    (run : α → Reply × Store) : Reply × Store :=
  match arguments with
  | .ok a => run a
  | .error e => (e.reply, s)

/-- Reading the target of a request on a known route, and running it. -/
def runRoute (s : Store) (route : Route) (query : String) (r : Request) : Reply × Store :=
  match route with
  | .locations =>
    withArguments s ((locationQuery query).mapError .query) fun (f, p) =>
      (granted (.json 200 <| locationPageValue ·) (s.findLocations f p), s)
  | .location id =>
    withArguments s ((pathId id).mapError .path) fun id =>
      (granted (.json 200 <| locationValue ·) (s.location id), s)
  | .orders =>
    withArguments s (r.jsonBody order) fun o =>
      let (result, s) := s.order o
      (granted (.json 201 <| invoiceValue ·) result, s)
  | .tickets =>
    withArguments s (r.jsonBody seatRequest) fun q =>
      let (result, s) := s.reserve q
      (granted (fun ts => .json 201 (.list (ts.map ticketValue))) result, s)
  | .occupancy =>
    withArguments s ((seatingQuery query).mapError .query) fun f =>
      (.json 200 (.list ((s.occupancy f).map seatingValue)), s)
  | .ticket id =>
    withArguments s ((pathId id).mapError .path) fun id =>
      let (result, s) := s.release id
      (granted (fun _ => .bare 204) result, s)
  | .refund id =>
    withArguments s ((pathId id).mapError .path) fun id =>
      let (result, s) := s.refund id
      (granted (.json 200 <| invoiceValue ·) result, s)

/-- **The reply to a request, and the store afterwards.** -/
def answer (s : Store) (r : Request) : Reply × Store :=
  let target := Target.ofUri r.uri
  match Route.ofPath? target.path with
  | none => (.bare 404, s)
  | some route =>
    if route.accepts r.method then
      let (reply, s) := runRoute s route target.query r
      (if r.method = "HEAD" then reply.head else reply, s)
    else (.notAllowed route, s)

/-- The replies to requests in their order, and the store after them. -/
def answers (s : Store) : List Request → List Reply × Store
  | [] => ([], s)
  | r :: rs =>
    let (reply, s) := answer s r
    let (replies, s) := answers s rs
    (reply :: replies, s)

end BoxOffice.Server
