import BoxOffice.Invoice
import BoxOffice.Json.Record
import BoxOffice.Json.Value
import BoxOffice.Location
import BoxOffice.Ticket

/-!
# What the client sends and receives

The JSON forms of all values that a client handles: a reader and a written form for each. They are
the client's own; that they fit those of the box office is a fact about both.

The title of a record is the name by which problems speak of it.
-/

namespace BoxOffice.Client

open BoxOffice.Json

/-! ## 1. Names -/

/-- The payment methods by name. -/
def paymentMethod : Reader PaymentMethod :=
  oneOf ("CREDIT_CARD", .creditCard) ("BANK_TRANSFER", .bankTransfer)

/-- The kinds of invoices by name. -/
def invoiceKind : Reader InvoiceKind :=
  oneOf ("PURCHASE", .purchase) ("CANCELLATION", .cancellation)

/-- The states of tickets by name. -/
def ticketState : Reader TicketState :=
  oneOf ("RESERVED", .reserved) ("PURCHASED", .purchased)

/-- The name of a payment method. -/
def paymentMethodValue : PaymentMethod → Value
  | .creditCard => .text "CREDIT_CARD"
  | .bankTransfer => .text "BANK_TRANSFER"

/-- The name of a kind of invoices. -/
def invoiceKindValue : InvoiceKind → Value
  | .purchase => .text "PURCHASE"
  | .cancellation => .text "CANCELLATION"

/-- The name of a state of tickets. -/
def ticketStateValue : TicketState → Value
  | .reserved => .text "RESERVED"
  | .purchased => .text "PURCHASED"

/-! ## 2. Parts -/

/-- An id. -/
def idValue (n : Int64) : Value := .integer n.toInt

/-- A list of ids. -/
def idsValue (ns : List Int64) : Value := .list (ns.map idValue)

/-- Null for what is missing. -/
def optionValue {α : Type} (f : α → Value) : Option α → Value
  | none => .null
  | some a => f a

/-! ## 3. Locations -/

/-- Reads a search for locations. -/
def locationFilter : Reader LocationFilter :=
  (LocationFilter.mk <$> optional "name" text <*> optional "address" text
    <*> optional "city" text <*> optional "country" text <*> optional "postalCode" text
    : Record _).reader "LocationSearch"

/-- A search for locations. -/
def locationFilterValue (f : LocationFilter) : Value :=
  .object
    [("name", optionValue .text f.name), ("address", optionValue .text f.address),
     ("city", optionValue .text f.city), ("country", optionValue .text f.country),
     ("postalCode", optionValue .text f.postalCode)]

/-- Reads a wanted page. -/
def pageRequest : Reader PageRequest :=
  (PageRequest.mk <$> optional "pageIndex" uint32 <*> optional "pageSize" uint32
    : Record _).reader "Page"

/-- A wanted page. -/
def pageRequestValue (p : PageRequest) : Value :=
  .object
    [("pageIndex", optionValue (fun n => .integer n.toNat) p.index),
     ("pageSize", optionValue (fun n => .integer n.toNat) p.size)]

/-- Reads a page of what `r` reads. -/
def page {α : Type} (r : Reader α) : Reader (Page α) :=
  (Page.mk <$> field "pageIndex" uint32 <*> field "pageSize" uint32
    <*> field "totalPages" uint32 <*> field "totalElements" uint64 <*> field "data" (list r)
    : Record _).reader "Pagination"

/-- A page. -/
def pageValue {α : Type} (f : α → Value) (p : Page α) : Value :=
  .object
    [("pageIndex", .integer p.index.toNat), ("pageSize", .integer p.size.toNat),
     ("totalPages", .integer p.totalPages.toNat), ("totalElements", .integer p.totalElements.toNat),
     ("data", .list (p.data.map f))]

/-- Reads a location. -/
def location : Reader Location :=
  (Location.mk <$> field "id" int64 <*> field "name" text <*> field "address" text
    <*> field "postalCode" text <*> field "city" text <*> field "country" text
    : Record _).reader "LocationDetail"

/-- A location. -/
def locationValue (l : Location) : Value :=
  .object
    [("id", idValue l.id), ("name", .text l.name), ("address", .text l.address),
     ("postalCode", .text l.postalCode), ("city", .text l.city), ("country", .text l.country)]

/-! ## 4. Orders and invoices -/

/-- Reads an order. -/
def order : Reader (Order PaymentMethod) :=
  (Order.mk <$> field "ticketIds" (list int64) <*> field "billingName" text
    <*> field "billingAddress" text <*> field "paymentMethod" paymentMethod
    : Record _).reader "OrderPaymentInfo"

/-- An order. -/
def orderValue (o : Order PaymentMethod) : Value :=
  .object
    [("ticketIds", idsValue o.ticketIds), ("billingName", .text o.billingName),
     ("billingAddress", .text o.billingAddress),
     ("paymentMethod", paymentMethodValue o.paymentMethod)]

/-- Reads an invoice. -/
def invoice : Reader Invoice :=
  (Invoice.mk <$> field "id" int64 <*> field "invoiceType" invoiceKind
    <*> field "ticketIds" (list int64) <*> field "totalPrice" float64
    : Record _).reader "InvoiceDetail"

/-- An invoice. -/
def invoiceValue (i : Invoice) : Value :=
  .object
    [("id", idValue i.id), ("invoiceType", invoiceKindValue i.kind),
     ("ticketIds", idsValue i.ticketIds), ("totalPrice", .float i.totalPrice)]

/-! ## 5. Tickets -/

/-- Reads a question for an occupancy. -/
def seatingFilter : Reader SeatingFilter :=
  (SeatingFilter.mk <$> optional "seatingPlanId" int64 <*> optional "eventShowId" int64
    : Record _).reader "TicketReservationsSearch"

/-- A question for an occupancy. -/
def seatingFilterValue (f : SeatingFilter) : Value :=
  .object
    [("seatingPlanId", optionValue idValue f.seatingPlanId),
     ("eventShowId", optionValue idValue f.eventShowId)]

/-- Reads an entry of an occupancy plan. -/
def seating : Reader Seating :=
  (Seating.mk <$> field "ticketId" int64 <*> field "seatId" int64
    <*> field "state" ticketState : Record _).reader "TicketSeating"

/-- An entry of an occupancy plan. -/
def seatingValue (s : Seating) : Value :=
  .object
    [("ticketId", idValue s.ticketId), ("seatId", idValue s.seatId),
     ("state", ticketStateValue s.state)]

/-- Reads the seats wanted of a show. -/
def seatRequest : Reader SeatRequest :=
  (SeatRequest.mk <$> field "eventShowId" int64 <*> field "seatIds" (list int64)
    : Record _).reader "TicketReservation"

/-- The seats wanted of a show. -/
def seatRequestValue (r : SeatRequest) : Value :=
  .object [("eventShowId", idValue r.eventShowId), ("seatIds", idsValue r.seatIds)]

/-- Reads a ticket. -/
def ticket : Reader Ticket :=
  (Ticket.mk <$> field "id" int64 <*> field "seatId" int64 <*> field "eventShowId" int64
    <*> field "state" ticketState : Record _).reader "TicketMinimal"

/-- A ticket. -/
def ticketValue (t : Ticket) : Value :=
  .object
    [("id", idValue t.id), ("seatId", idValue t.seatId), ("eventShowId", idValue t.eventShowId),
     ("state", ticketStateValue t.state)]

end BoxOffice.Client
