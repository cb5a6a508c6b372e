import BoxOffice.Inspect.Basic
import BoxOffice.Invoice
import BoxOffice.Location
import BoxOffice.Ticket

/-!
# Inspections of what is sent and received

Locations, tickets, orders and invoices under the titles that problems with their JSON forms use,
with the fields in the order of their declaration.
-/

namespace BoxOffice

instance : Inspect LocationFilter :=
  ⟨fun f => .record "LocationSearch"
    [("name", inspect f.name), ("address", inspect f.address), ("city", inspect f.city),
     ("country", inspect f.country), ("postal_code", inspect f.postalCode)]⟩

instance : Inspect PageRequest :=
  ⟨fun p => .record "Page" [("page_index", inspect p.index), ("page_size", inspect p.size)]⟩

instance {α : Type} [Inspect α] : Inspect (Page α) :=
  ⟨fun p => .record "Pagination"
    [("page_index", inspect p.index), ("page_size", inspect p.size),
     ("total_pages", inspect p.totalPages), ("total_elements", inspect p.totalElements),
     ("data", inspect p.data)]⟩

instance : Inspect Location :=
  ⟨fun l => .record "LocationDetail"
    [("id", inspect l.id), ("name", inspect l.name), ("address", inspect l.address),
     ("postal_code", inspect l.postalCode), ("city", inspect l.city),
     ("country", inspect l.country)]⟩

instance : Inspect PaymentMethod :=
  ⟨fun
    | .creditCard => .word "CreditCard"
    | .bankTransfer => .word "BankTransfer"⟩

instance {μ : Type} [Inspect μ] : Inspect (Order μ) :=
  ⟨fun o => .record "OrderPaymentInfo"
    [("ticket_ids", inspect o.ticketIds), ("billing_name", inspect o.billingName),
     ("billing_address", inspect o.billingAddress),
     ("payment_method", inspect o.paymentMethod)]⟩

instance : Inspect InvoiceKind :=
  ⟨fun
    | .purchase => .word "Purchase"
    | .cancellation => .word "Cancellation"⟩

instance : Inspect Invoice :=
  ⟨fun i => .record "InvoiceDetail"
    [("id", inspect i.id), ("invoice_type", inspect i.kind), ("ticket_ids", inspect i.ticketIds),
     ("total_price", inspect i.totalPrice)]⟩

instance : Inspect SeatingFilter :=
  ⟨fun f => .record "TicketReservationsSearch"
    [("seating_plan_id", inspect f.seatingPlanId), ("event_show_id", inspect f.eventShowId)]⟩

instance : Inspect TicketState :=
  ⟨fun
    | .reserved => .word "Reserved"
    | .purchased => .word "Purchased"⟩

instance : Inspect Seating :=
  ⟨fun s => .record "TicketSeating"
    [("ticket_id", inspect s.ticketId), ("seat_id", inspect s.seatId),
     ("state", inspect s.state)]⟩

instance : Inspect SeatRequest :=
  ⟨fun r => .record "TicketReservation"
    [("event_show_id", inspect r.eventShowId), ("seat_ids", inspect r.seatIds)]⟩

instance : Inspect Ticket :=
  ⟨fun t => .record "TicketMinimal"
    [("id", inspect t.id), ("seat_id", inspect t.seatId),
     ("event_show_id", inspect t.eventShowId), ("state", inspect t.state)]⟩

end BoxOffice
