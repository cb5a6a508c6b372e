/-!
# Tickets

* `Ticket` -- a seat of a show in somebody's hands, reserved or purchased;
* `Seating` -- a ticket as an occupancy plan lists it;
* `SeatRequest` -- the seats of a show that somebody wants;
* `SeatingFilter` -- the show, and the seating plan, whose tickets are asked for;
* `Show` -- a performance: its seating plan and the price of a seat.
-/

namespace BoxOffice

/-- How far a ticket has come. -/
inductive TicketState where
  | reserved
  | purchased
  deriving DecidableEq, Repr

/-- A seat of a show in somebody's hands. -/
structure Ticket where
  id : Int64
  seatId : Int64
  eventShowId : Int64
  state : TicketState
  deriving DecidableEq, Repr

/-- A ticket in an occupancy plan. -/
structure Seating where
  ticketId : Int64
  seatId : Int64
  state : TicketState
  deriving DecidableEq, Repr

/-- A ticket as its entry in an occupancy plan. -/
def Ticket.seating (t : Ticket) : Seating := ⟨t.id, t.seatId, t.state⟩

/-- The seats wanted of a show. -/
structure SeatRequest where
  eventShowId : Int64
  seatIds : List Int64
  deriving DecidableEq, Repr

/-- The show, and the seating plan, whose tickets are asked for. -/
structure SeatingFilter where
  seatingPlanId : Option Int64
  eventShowId : Option Int64
  deriving DecidableEq, Repr, Inhabited

/-- A performance. -/
structure Show where
  seatingPlanId : Int64
  price : Float
  deriving DecidableEq, Repr

end BoxOffice
