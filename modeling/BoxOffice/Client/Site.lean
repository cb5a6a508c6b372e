import BoxOffice.Client.Criteria
import BoxOffice.Client.Endpoint
import BoxOffice.Json.Value
import BoxOffice.Text.AsciiCase

/-!
# Sites

A `Site` is the place of a resource on a server: its root URL, and the headers that every request to
it has.

* `Site.under baseUrl basePath` -- joins the two with one slash between them;
* `Site.withToken` -- adds a bearer token; tokens add up;
* `Site.request` -- the request of an endpoint with arguments, criteria and body;
* `Response.json`, `Response.nothing` -- what a response means.
-/

namespace BoxOffice.Client

open BoxOffice.Text

/-! ## 1. Requests and responses -/

/-- A request. Criteria are kept apart from the URL, and nothing is escaped. -/
structure Request where
  method : Method
  url : String
  query : List (String × String)
  headers : List (String × String)
  body : Option String
  deriving DecidableEq, Repr

/-- The first header of a name, upper and lower case being the same. -/
def Request.header? (r : Request) (name : String) : Option String := firstNamed name r.headers

/-- A response. -/
structure Response where
  status : UInt16
  headers : List (String × String)
  body : String
  deriving DecidableEq, Repr

/-- The status tells of success. -/
def Response.isSuccess (r : Response) : Bool :=
  decide (200 ≤ r.status.toNat) && decide (r.status.toNat < 300)

/-- A value to be sent, or why it has no JSON form. -/
abbrev Payload := Except Json.Fault Json.Value

/-! ## 2. Sites -/

/-- The place of a resource on a server. -/
structure Site where
  root : String
  headers : List (String × String)
  deriving DecidableEq, Repr

/-- The character is a slash. -/
def isSlash (c : Char) : Bool := c == '/'

namespace Site

/-- **The site of a path under a base URL**: slashes at the end of the base URL and at both ends of
    the path do not count. -/
def under (baseUrl basePath : String) : Site :=
  ⟨String.ofList
      (dropEndWhile isSlash baseUrl.toList ++ '/' :: trimBoth isSlash basePath.toList), []⟩

/-- The site with one more bearer token. -/
def withToken (s : Site) (token : String) : Site :=
  { s with headers := s.headers ++ [("authorization", "Bearer " ++ token)] }

/-- The site with more bearer tokens. -/
def withTokens (s : Site) (tokens : List String) : Site := tokens.foldl withToken s

/-- The URL of a path under the root. -/
def url (s : Site) (path : String) : String :=
  if path.isEmpty then s.root else s.root ++ "/" ++ path

/-- The headers of a request to an endpoint: those of the site, what is wanted of the response, and
    what the body is. -/
def requestHeaders (s : Site) (response : ResponseKind) (hasBody : Bool) :
    List (String × String) :=
  s.headers
    ++ (match response with
      | .json => [("accept", "application/json")]
      | .empty => [])
    ++ (if hasBody then [("content-type", "application/json")] else [])

/-- **The request of an endpoint.** -/
def request (s : Site) (e : Endpoint) (arguments : List (String × String)) (criteria : Criteria)
    (body : Option Payload) : Except Failure Request := do
  let path ← renderPath e.path arguments
  let text ← match body with
    | none => .ok none
    | some (.ok v) => .ok (some v.write)
    | some (.error f) => .error (.unwritable f.message)
  return ⟨e.method, s.url path, criteria.pairs, s.requestHeaders e.response text.isSome, text⟩

end Site

/-! ## 3. What responses mean -/

/-- A status that is no success is a failure. -/
def Response.check (r : Response) : Except Failure Unit :=
  if r.isSuccess then .ok ()
  else if r.status = 404 then .error .notFound
  else .error (.status r.status r.body)

/-- **The value in the body of a successful response.** -/
def Response.json {α : Type} (reader : Json.Reader α) (r : Response) : Except Failure α := do
  r.check
  (Json.Reader.read reader r.body).mapError fun p => .unreadable p.fault.message

/-- Nothing but the success of a response. -/
def Response.nothing (r : Response) : Except Failure Unit := r.check

end BoxOffice.Client
