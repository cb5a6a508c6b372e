import BoxOffice.Invoice
import BoxOffice.Json.Record
import BoxOffice.Json.Value
import BoxOffice.Location
import BoxOffice.Server.Target
import BoxOffice.Ticket

/-!
# What the box office sends and receives

The JSON forms of what the box office answers with, the records it reads from request bodies, and the
filters it reads from queries. An order's payment method is any text.
-/

namespace BoxOffice.Server

open BoxOffice.Json
open BoxOffice.Number

/-! ## 1. Answers -/

/-- A location. -/
def locationValue (l : Location) : Value :=
  .object
    [("id", .integer l.id.toInt), ("name", .text l.name), ("address", .text l.address),
     ("postalCode", .text l.postalCode), ("city", .text l.city), ("country", .text l.country)]

/-- A page of locations. -/
def locationPageValue (p : Page Location) : Value :=
  .object
    [("pageIndex", .integer p.index.toNat), ("pageSize", .integer p.size.toNat),
     ("totalPages", .integer p.totalPages.toNat), ("totalElements", .integer p.totalElements.toNat),
     ("data", .list (p.data.map locationValue))]

/-- The state of a ticket. -/
def ticketStateValue : TicketState → Value
  | .reserved => .text "RESERVED"
  | .purchased => .text "PURCHASED"

/-- A ticket. -/
def ticketValue (t : Ticket) : Value :=
  .object
    [("id", .integer t.id.toInt), ("seatId", .integer t.seatId.toInt),
     ("eventShowId", .integer t.eventShowId.toInt), ("state", ticketStateValue t.state)]

/-- An entry of an occupancy plan. -/
def seatingValue (s : Seating) : Value :=
  .object
    [("ticketId", .integer s.ticketId.toInt), ("seatId", .integer s.seatId.toInt),
     ("state", ticketStateValue s.state)]

/-- The kind of an invoice. -/
def invoiceKindValue : InvoiceKind → Value
  | .purchase => .text "PURCHASE"
  | .cancellation => .text "CANCELLATION"

/-- An invoice. -/
def invoiceValue (i : Invoice) : Value :=
  .object
    [("id", .integer i.id.toInt), ("invoiceType", invoiceKindValue i.kind),
     ("ticketIds", .list (i.ticketIds.map fun id => .integer id.toInt)),
     ("totalPrice", .float i.totalPrice)]

/-! ## 2. Request bodies -/

/-- An order. -/
def order : Reader (Order String) :=
  (Order.mk <$> field "ticketIds" (list int64) <*> field "billingName" text
    <*> field "billingAddress" text <*> field "paymentMethod" text : Record _).reader
    "OrderPaymentInfo"

/-- The seats wanted of a show. -/
def seatRequest : Reader SeatRequest :=
  (SeatRequest.mk <$> field "eventShowId" int64 <*> field "seatIds" (list int64) : Record _).reader
    "TicketReservation"

/-! ## 3. Queries -/

/-- The fields of a search for locations. -/
def locationFields : List (String × QueryKind) :=
  [("name", .text), ("address", .text), ("city", .text), ("country", .text),
   ("postalCode", .text), ("pageIndex", .number .uint32), ("pageSize", .number .uint32)]

/-- **A search for locations**, and the page wanted of it. -/
def locationQuery (query : String) : Except QueryFault (LocationFilter × PageRequest) := do
  let found ← Query.read locationFields query
  let word := Query.text? found
  let number name := (Query.number? found name).map fun n => UInt32.ofNat n.toNat
  let filter : LocationFilter :=
    ⟨word "name", word "address", word "city", word "country", word "postalCode"⟩
  return (filter, ⟨number "pageIndex", number "pageSize"⟩)

/-- The fields of a question for an occupancy. -/
def seatingFields : List (String × QueryKind) :=
  [("seatingPlanId", .number .int64), ("eventShowId", .number .int64)]

/-- **A question for an occupancy.** -/
def seatingQuery (query : String) : Except QueryFault SeatingFilter := do
  let found ← Query.read seatingFields query
  let number name := (Query.number? found name).map Int64.ofInt
  return ⟨number "seatingPlanId", number "eventShowId"⟩

end BoxOffice.Server
