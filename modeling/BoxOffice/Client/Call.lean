import BoxOffice.Client.Site
import BoxOffice.Client.Wire

/-!
# Calls

A `Call` is one of the seven operations with its arguments, an `Answer` what it gives back.

* `Sites` -- the sites of the three resources under one base URL;
* `Call.request` -- the request of a call;
* `Call.read` -- what a response to a call means.
-/

namespace BoxOffice.Client

/-! ## 1. Sites of a server -/

/-- The sites of the resources of a server. -/
structure Sites where
  location : Site
  order : Site
  ticket : Site
  deriving DecidableEq, Repr

/-- The site of a resource, with the bearer token if there is one. -/
def Resource.site (baseUrl : String) (token : Option String) (r : Resource) : Site :=
  match token with
  | some t => (Site.under baseUrl r.basePath).withToken t
  | none => Site.under baseUrl r.basePath

namespace Sites

/-- The sites under a base URL. -/
def under (baseUrl : String) (token : Option String) : Sites :=
  ⟨Resource.location.site baseUrl token, Resource.order.site baseUrl token,
   Resource.ticket.site baseUrl token⟩

/-- The site of a resource. -/
def get (s : Sites) : Resource → Site
  | .location => s.location
  | .order => s.order
  | .ticket => s.ticket

end Sites

/-! ## 2. Calls -/

/-- An operation with its arguments. -/
inductive Call where
  | findLocations (f : LocationFilter) (p : PageRequest)
  | findLocation (id : Int64)
  | order (o : Order PaymentMethod)
  | refund (id : Int64)
  | release (id : Int64)
  | occupancy (f : SeatingFilter)
  | reserve (r : SeatRequest)
  deriving DecidableEq, Repr

/-- What a call gives back. -/
inductive Answer where
  | locations (p : Page Location)
  | location (l : Location)
  | invoice (i : Invoice)
  | seatings (ss : List Seating)
  | tickets (ts : List Ticket)
  | nothing
  deriving DecidableEq, Repr

namespace Call

/-- The resource of a call. -/
def resource : Call → Resource
  | .findLocations _ _ | .findLocation _ => .location
  | .order _ => .order
  | .refund _ | .release _ | .occupancy _ | .reserve _ => .ticket

/-- The endpoint of a call. -/
def endpoint : Call → Endpoint
  | .findLocations _ _ => .findByFilters
  | .findLocation _ => .findById
  | .order _ => .placeOrder
  | .refund _ => .cancelAndRefundTicket
  | .release _ => .cancelTicketReservation
  | .occupancy _ => .getReservationsForSeatingPlan
  | .reserve _ => .reserveTickets

/-- The path argument of an id. -/
def idArgument (id : Int64) : List (String × String) :=
  [("id", String.ofList (Number.intDigits id.toInt))]

/-- The path arguments of a call. -/
def arguments : Call → List (String × String)
  | .findLocation id | .refund id | .release id => idArgument id
  | .findLocations _ _ | .order _ | .occupancy _ | .reserve _ => []

/-- The criteria of a search for locations. -/
def locationCriteria (f : LocationFilter) (p : PageRequest) : Criteria :=
  let number := Criterion.ofOption fun n : UInt32 => .natural n.toUInt64
  let word := Criterion.ofOption Criterion.text
  .ofEntries
    [("postalCode", word f.postalCode), ("pageSize", number p.size), ("address", word f.address),
     ("city", word f.city), ("country", word f.country), ("name", word f.name),
     ("pageIndex", number p.index)]

/-- The criteria of a question for an occupancy. -/
def seatingCriteria (f : SeatingFilter) : Criteria :=
  .ofEntries
    [("seatingPlanId", .ofOption .integer f.seatingPlanId),
     ("eventShowId", .ofOption .integer f.eventShowId)]

/-- The criteria of a call. -/
def criteria : Call → Criteria
  | .findLocations f p => locationCriteria f p
  | .occupancy f => seatingCriteria f
  | .findLocation _ | .order _ | .refund _ | .release _ | .reserve _ => .empty

/-- The body of a call. -/
def body : Call → Option Payload
  | .order o => some (.ok (orderValue o))
  | .reserve r => some (.ok (seatRequestValue r))
  | .findLocations _ _ | .findLocation _ | .refund _ | .release _ | .occupancy _ => none

/-- **The request of a call.** -/
def request (sites : Sites) (c : Call) : Except Failure Request :=
  (sites.get c.resource).request c.endpoint c.arguments c.criteria c.body

/-- **What a response to a call means.** -/
def read (c : Call) (r : Response) : Except Failure Answer :=
  match c with
  | .findLocations _ _ => (r.json (page location)).map .locations
  | .findLocation _ => (r.json location).map .location
  | .order _ | .refund _ => (r.json invoice).map .invoice
  | .release _ => r.nothing.map fun _ => .nothing
  | .occupancy _ => (r.json (Json.list seating)).map .seatings
  | .reserve _ => (r.json (Json.list ticket)).map .tickets

end Call

/-- The JSON form of an answer. -/
def Answer.value : Answer → Json.Value
  | .locations p => pageValue locationValue p
  | .location l => locationValue l
  | .invoice i => invoiceValue i
  | .seatings ss => .list (ss.map seatingValue)
  | .tickets ts => .list (ts.map ticketValue)
  | .nothing => .null

end BoxOffice.Client
