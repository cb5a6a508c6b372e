import BoxOffice.Client.Wire
import BoxOffice.Proofs.Json.Fields
import BoxOffice.Server.Wire

/-!
# The two schemas agree

The box office and the client each have JSON forms of their own. What one side writes, the other side
reads:

* `Client.location_tree`, `Client.page_tree`, `Client.ticket_tree`, `Client.seating_tree`,
  `Client.invoice_tree` -- the client reads the answers of the box office;
* `Server.order_tree`, `Server.seatRequest_tree` -- the box office reads the bodies of the client.

A total is read as the double that its numeral stands for, whichever that is.
-/

namespace BoxOffice

open BoxOffice.Json
open BoxOffice.Json.Record (Fits)

/-! ## 1. What the client reads -/

namespace Client

theorem ticketState_tree (s : TicketState) : ticketState (Server.ticketStateValue s).tree = .ok s := by
  cases s with
  | reserved =>
    simp only [Server.ticketStateValue, ticketState, Value.tree, oneOf, Quoted.read_ofText]
    rfl
  | purchased =>
    simp only [Server.ticketStateValue, ticketState, Value.tree, oneOf, Quoted.read_ofText]
    rfl

theorem invoiceKind_tree (k : InvoiceKind) : invoiceKind (Server.invoiceKindValue k).tree = .ok k := by
  cases k <;>
    simp only [Server.invoiceKindValue, invoiceKind, Value.tree, oneOf, Quoted.read_ofText] <;> rfl

theorem ids_tree (ids : List Int64) :
    list int64 (Value.list (ids.map fun id => .integer id.toInt)).tree = .ok ids :=
  list_tree fun id _ => int64_tree id

/-- A location. -/
theorem location_tree (l : Location) : location (Server.locationValue l).tree = .ok l :=
  Fits.read
    ((((((Fits.map Location.mk (.field (int64_tree l.id))).seq (.field (text_tree l.name))).seq
      (.field (text_tree l.address))).seq (.field (text_tree l.postalCode))).seq
      (.field (text_tree l.city))).seq (.field (text_tree l.country)))
    (by decide) _

/-- A page of locations. -/
theorem page_tree (p : Page Location) :
    page location (Server.locationPageValue p).tree = .ok p :=
  Fits.read
    (((((Fits.map Page.mk (.field (uint32_tree p.index))).seq (.field (uint32_tree p.size))).seq
      (.field (uint32_tree p.totalPages))).seq (.field (uint64_tree p.totalElements))).seq
      (.field (list_tree fun l _ => location_tree l)))
    (by decide) _

/-- A ticket. -/
theorem ticket_tree (t : Ticket) : ticket (Server.ticketValue t).tree = .ok t :=
  Fits.read
    ((((Fits.map Ticket.mk (.field (int64_tree t.id))).seq (.field (int64_tree t.seatId))).seq
      (.field (int64_tree t.eventShowId))).seq (.field (ticketState_tree t.state)))
    (by decide) _

/-- An entry of an occupancy plan. -/
theorem seating_tree (s : Seating) : seating (Server.seatingValue s).tree = .ok s :=
  Fits.read
    (((Fits.map Seating.mk (.field (int64_tree s.ticketId))).seq (.field (int64_tree s.seatId))).seq
      (.field (ticketState_tree s.state)))
    (by decide) _

/-- An invoice, with the total that is read. -/
theorem invoice_tree (i : Invoice) {total : Float}
    (h : float64 (Value.float i.totalPrice).tree = .ok total) :
    invoice (Server.invoiceValue i).tree = .ok { i with totalPrice := total } :=
  Fits.read
    ((((Fits.map Invoice.mk (.field (int64_tree i.id))).seq (.field (invoiceKind_tree i.kind))).seq
      (.field (ids_tree i.ticketIds))).seq (.field h))
    (by decide) _

end Client

/-! ## 2. What the box office reads -/

/-- The name of a payment method. -/
def PaymentMethod.name : PaymentMethod → String
  | .creditCard => "CREDIT_CARD"
  | .bankTransfer => "BANK_TRANSFER"

/-- An order as it is received: the payment method is its name. -/
def Order.received (o : Order PaymentMethod) : Order String :=
  ⟨o.ticketIds, o.billingName, o.billingAddress, o.paymentMethod.name⟩

namespace Server

theorem paymentMethod_tree (p : PaymentMethod) :
    text (Client.paymentMethodValue p).tree = .ok p.name := by
  cases p <;> exact text_tree _

/-- An order. -/
theorem order_tree (o : Order PaymentMethod) : order (Client.orderValue o).tree = .ok o.received :=
  Fits.read
    ((((Fits.map Order.mk (.field (Client.ids_tree o.ticketIds))).seq (.field (text_tree o.billingName))).seq
      (.field (text_tree o.billingAddress))).seq (.field (paymentMethod_tree o.paymentMethod)))
    (by decide) _

/-- The seats wanted of a show. -/
theorem seatRequest_tree (r : SeatRequest) : seatRequest (Client.seatRequestValue r).tree = .ok r :=
  Fits.read
    ((Fits.map SeatRequest.mk (.field (int64_tree r.eventShowId))).seq (.field (Client.ids_tree r.seatIds)))
    (by decide) _

end Server

end BoxOffice
