import BoxOffice.Number.Bounded
import BoxOffice.Text.Form

/-!
# Request targets

* `Target.ofUri s` -- the path and the query of a URI. A fragment is dropped; scheme and authority,
  if there are any, too;
* `Route.ofPath? p` -- the resource that a path names. Segments are compared as they are written; an
  id is any segment, empty only where another one follows;
* `Route.method`, `Route.allowed` -- the method that the resource has, and the list of its methods;
* `pathId` -- the id that a segment writes;
* `Query.read` -- the fields of a query by name.
-/

namespace BoxOffice.Server

open BoxOffice.Text
open BoxOffice.Number

/-! ## 1. Path and query -/

/-- The path and the query of a URI. -/
structure Target where
  path : List Char
  query : String
  deriving DecidableEq, Repr

/-- What follows the authority of a URI that has one; the whole text otherwise. -/
def afterAuthority (cs : List Char) : List Char :=
  match cs with
  | '/' :: _ => cs
  | _ =>
    match cutAt ':' cs with
    | (_, some ('/' :: '/' :: rest)) => rest.dropWhile fun c => c != '/' && c != '?'
    | _ => cs

/-- The path of a URI with an authority, of which an empty one is the root. -/
def rooted : List Char → List Char
  | [] => ['/']
  | cs => cs

/-- **The path and the query of a URI.** -/
def Target.ofUri (uri : String) : Target :=
  let cs := afterAuthority (cutAt '#' uri.toList).1
  let (path, query) := cutAt '?' cs
  ⟨rooted path, String.ofList (query.getD [])⟩

/-! ## 2. Routes -/

/-- A resource of the box office. -/
inductive Route where
  | locations
  | location (id : String)
  | orders
  | tickets
  | occupancy
  | ticket (id : String)
  | refund (id : String)
  deriving DecidableEq, Repr

/-- The route of a last segment, which may not be empty. -/
def Route.ofLast? (route : String → Route) (id : String) : Option Route :=
  if id = "" then none else some (route id)

/-- The route of the segments after the version. -/
def Route.ofSegments? : List String → Option Route
  | ["location"] => some .locations
  | ["location", id] => Route.ofLast? .location id
  | ["orders"] => some .orders
  | ["tickets"] => some .tickets
  | ["tickets", "reservations"] => some .occupancy
  | ["tickets", id] => Route.ofLast? .ticket id
  | ["tickets", id, "cancelation"] => some (.refund id)
  | _ => none

/-- **The resource that a path names.** -/
def Route.ofPath? (path : List Char) : Option Route :=
  match (splitOn '/' path).map String.ofList with
  | "" :: "api" :: "v1" :: segments => Route.ofSegments? segments
  | _ => none

/-- The method of a resource. -/
def Route.method : Route → String
  | .locations | .location _ | .occupancy => "GET"
  | .orders | .tickets => "POST"
  | .ticket _ => "DELETE"
  | .refund _ => "PUT"

/-- The methods of a resource, as a refusal of another one lists them. -/
def Route.allowed (r : Route) : String := if r.method = "GET" then "GET,HEAD" else r.method

/-- The resource has the method, or answers it with the head of another one. -/
def Route.accepts (r : Route) (method : String) : Bool :=
  method == r.method || (method == "HEAD" && r.method == "GET")

/-! ## 3. Ids in paths -/

/-- Why a segment is no id. -/
inductive PathFault where
  | notText
  | notNumber (s : String)
  deriving DecidableEq, Repr

/-- The wording of the fault. -/
def PathFault.message : PathFault → String
  | .notText => "Invalid URL: Invalid UTF-8 in `id`"
  | .notNumber s => "Invalid URL: Cannot parse `" ++ s ++ "` to a `i64`"

/-- **The id that a segment writes**, percent escapes resolved. -/
def pathId (segment : String) : Except PathFault Int64 :=
  match Utf8.decode? (Percent.decode (Utf8.encode segment.toList)) with
  | none => .error .notText
  | some cs =>
    match Bounds.int64.read cs with
    | .ok n => .ok (.ofInt n)
    | .error _ => .error (.notNumber (String.ofList cs))

/-! ## 4. Queries -/

/-- What a field of a query holds. -/
inductive QueryKind where
  | text
  | number (b : Bounds)
  deriving DecidableEq, Repr

/-- The value of a field of a query. -/
inductive QueryItem where
  | text (s : String)
  | number (n : Int)
  deriving DecidableEq, Repr

/-- Why a query cannot be read. -/
inductive QueryFault where
  | duplicate (name : String)
  | badNumber (name : String) (fault : IntegerFault)
  deriving DecidableEq, Repr

/-- The wording of the fault. -/
def QueryFault.message : QueryFault → String
  | .duplicate name => "Failed to deserialize query string: duplicate field `" ++ name ++ "`"
  | .badNumber name fault =>
    "Failed to deserialize query string: " ++ name ++ ": " ++ fault.message

namespace Query

/-- The value that a text is for a kind of field. -/
def item (kind : QueryKind) (s : String) : Except IntegerFault QueryItem :=
  match kind with
  | .text => .ok (.text s)
  | .number b => (b.read s.toList).map .number

/-- Goes through pairs; `found` holds the fields met before. Pairs of other names are passed over. -/
def readPairs (fields : List (String × QueryKind)) (found : List (String × QueryItem)) :
    List (String × String) → Except QueryFault (List (String × QueryItem))
  | [] => .ok found
  | (name, value) :: pairs =>
    match fields.lookup name with
    | none => readPairs fields found pairs
    | some kind =>
      if (found.lookup name).isSome then .error (.duplicate name)
      else
        match item kind value with
        | .ok i => readPairs fields (found ++ [(name, i)]) pairs
        | .error f => .error (.badNumber name f)

/-- **The fields of a query.** -/
def read (fields : List (String × QueryKind)) (query : String) :
    Except QueryFault (List (String × QueryItem)) :=
  readPairs fields [] (Form.decode query)

/-- The text of a field. -/
def text? (found : List (String × QueryItem)) (name : String) : Option String :=
  match found.lookup name with
  | some (.text s) => some s
  | _ => none

/-- The number of a field. -/
def number? (found : List (String × QueryItem)) (name : String) : Option Int :=
  match found.lookup name with
  | some (.number n) => some n
  | _ => none

end Query

end BoxOffice.Server
