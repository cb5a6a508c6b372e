import BoxOffice.Store.Basic
import BoxOffice.Text.Blank

/-!
# Reserving, paying, giving back

The four requests that change a store. Each answers with its result or a refusal, and with the
store afterwards; a refusal comes before any change.

* `Store.reserve` -- tickets for seats of a show that nobody has;
* `Store.order` -- pays for reserved tickets;
* `Store.release` -- gives a reserved ticket back;
* `Store.refund` -- gives a purchased ticket back for its price.
-/

namespace BoxOffice

namespace Store

/-! ## 1. Reserving -/

/-- Some ticket of the show has one of the seats. -/
def hasTaken (s : Store) (r : SeatRequest) : Bool :=
  s.tickets.values.any fun t => t.eventShowId == r.eventShowId && r.seatIds.contains t.seatId

/-- Writes a reserved ticket for a seat under the next id. -/
def addTicket (s : Store) (showId seatId : Int64) : Ticket × Store :=
  let t : Ticket := ⟨s.nextTicketId, seatId, showId, .reserved⟩
  (t, { s with tickets := s.tickets.insert t.id t, nextTicketId := s.nextTicketId + 1 })

/-- Writes reserved tickets for seats, one after the other. -/
def addTickets (s : Store) (showId : Int64) : List Int64 → List Ticket × Store
  | [] => ([], s)
  | seat :: seats =>
    let (t, s) := s.addTicket showId seat
    let (ts, s) := s.addTickets showId seats
    (t :: ts, s)

/-- **Reserves seats of a show**: one ticket for each seat listed. -/
def reserve (s : Store) (r : SeatRequest) : Except Refusal (List Ticket) × Store :=
  if r.seatIds.isEmpty then (.error .unprocessable, s)
  else if !s.shows.contains r.eventShowId then (.error .notFound, s)
  else if s.hasTaken r then (.error .conflict, s)
  else
    let (ts, s) := s.addTickets r.eventShowId r.seatIds
    (.ok ts, s)

/-! ## 2. Paying -/

/-- No id is listed twice. -/
def allDistinct : List Int64 → Bool
  | [] => true
  | id :: ids => !ids.contains id && allDistinct ids

theorem allDistinct_iff_nodup : ∀ ids : List Int64, allDistinct ids = true ↔ ids.Nodup
  | [] => by simp [allDistinct]
  | id :: ids => by simp [allDistinct, allDistinct_iff_nodup ids]

/-- The prices of tickets added to a sum, one after the other; all have to be reserved. -/
def bill (s : Store) (sum : Float) : List Int64 → Except Refusal Float
  | [] => .ok sum
  | id :: ids =>
    match s.tickets.get? id with
    | none => .error .notFound
    | some t =>
      if t.state = .reserved then s.bill (sum + s.priceOf t) ids else .error .conflict

/-- The tickets with the listed ones purchased. -/
def purchased (tickets : Table Ticket) (ids : List Int64) : Table Ticket :=
  ids.foldl (fun ts id => ts.modify id fun t => { t with state := .purchased }) tickets

/-- **Pays for reserved tickets.** -/
def order {μ : Type} (s : Store) (o : Order μ) : Except Refusal Invoice × Store :=
  if o.ticketIds.isEmpty || Text.isAllBlank o.billingName then (.error .unprocessable, s)
  else if !allDistinct o.ticketIds then (.error .unprocessable, s)
  else
    match s.bill 0.0 o.ticketIds with
    | .error r => (.error r, s)
    | .ok total =>
      let (invoice, s) :=
        { s with tickets := purchased s.tickets o.ticketIds }.issue .purchase o.ticketIds total
      (.ok invoice, s)

/-! ## 3. Giving back -/

/-- **Gives a reserved ticket back.** -/
def release (s : Store) (id : Int64) : Except Refusal Unit × Store :=
  match s.tickets.get? id with
  | none => (.error .notFound, s)
  | some t =>
    match t.state with
    | .purchased => (.error .conflict, s)
    | .reserved => (.ok (), { s with tickets := s.tickets.erase id })

/-- **Gives a purchased ticket back for its price.** -/
def refund (s : Store) (id : Int64) : Except Refusal Invoice × Store :=
  match s.tickets.get? id with
  | none => (.error .notFound, s)
  | some t =>
    match t.state with
    | .reserved => (.error .conflict, s)
    | .purchased =>
      let (invoice, s) :=
        { s with tickets := s.tickets.erase id }.issue .cancellation [id] (s.priceOf t)
      (.ok invoice, s)

end Store

end BoxOffice
