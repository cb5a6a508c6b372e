/-!
# Orders and invoices

* `Order μ` -- tickets to be paid for, by whom, and by a payment method given as a `μ`: one of the
  known methods for who writes the order, any text for who receives it;
* `Invoice` -- what was paid or paid back, and for which tickets. Two totals count as the same
  amount if they are equal as numbers (`0.0` and `-0.0` are, a NaN equals nothing).
-/

namespace BoxOffice

/-- A known payment method. -/
inductive PaymentMethod where
  | creditCard
  | bankTransfer
  deriving DecidableEq, Repr

/-- Tickets to be paid for. -/
structure Order (μ : Type) where
  ticketIds : List Int64
  billingName : String
  billingAddress : String
  paymentMethod : μ
  deriving DecidableEq, Repr

/-- Whether an invoice is for money paid or paid back. -/
inductive InvoiceKind where
  | purchase
  | cancellation
  deriving DecidableEq, Repr

/-- What was paid or paid back. -/
structure Invoice where
  id : Int64
  kind : InvoiceKind
  ticketIds : List Int64
  totalPrice : Float
  deriving DecidableEq, Repr

/-- Equality of invoices, their totals compared as numbers. -/
def Invoice.same (a b : Invoice) : Bool :=
  a.id == b.id && a.kind == b.kind && a.ticketIds == b.ticketIds && a.totalPrice == b.totalPrice

end BoxOffice
