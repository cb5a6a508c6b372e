import BoxOffice.Invoice
import BoxOffice.Location
import BoxOffice.Table
import BoxOffice.Ticket

/-!
# The store of a box office

A `Store` holds the locations, the shows and the tickets of a box office, and the next id of a
ticket and of an invoice. Tickets that were released or refunded are gone; invoices are handed out
and not kept.

* `Store.seeded` -- four locations and three shows, ids from 1 on;
* `Store.empty` -- nothing, ids from 0 on;
* `Store.issue` -- writes an invoice;
* `Refusal` -- the ways in which a request is turned down.
-/

namespace BoxOffice

/-- What a box office holds. -/
structure Store where
  locations : Table Location
  shows : Table Show
  tickets : Table Ticket
  nextTicketId : Int64
  nextInvoiceId : Int64

/-- Why a request is turned down. -/
inductive Refusal where
  /-- a page of no length is asked for -/
  | emptyPage
  /-- something that is named does not exist -/
  | notFound
  /-- a ticket or a seat is not in the state that the request needs -/
  | conflict
  /-- the request asks for nothing, or lacks what it needs -/
  | unprocessable
  deriving DecidableEq, Repr

namespace Store

/-! ## 1. Stores to start from -/

/-- A store with nothing in it. -/
def empty : Store := ⟨.empty, .empty, .empty, 0, 0⟩

/-- The locations of the seeded store. -/
def seededLocations : List Location :=
  [⟨1, "Stadthalle", "Roland-Rainer-Platz 1", "1150", "Wien", "Austria"⟩,
   ⟨2, "Gasometer", "Guglgasse 8", "1110", "Wien", "Austria"⟩,
   ⟨3, "Arena", "Baumgasse 80", "1030", "Wien", "Austria"⟩,
   ⟨4, "Olympia", "Boulevard des Capucines 28", "75009", "Paris", "France"⟩]

/-- The shows of the seeded store: two on seating plan 3, one on seating plan 5. -/
def seededShows : List (Int64 × Show) :=
  [(1, ⟨3, 49.9⟩), (2, ⟨3, 39.9⟩), (3, ⟨5, 25.0⟩)]

/-- **The seeded store**: venues and shows, no ticket yet. -/
def seeded : Store where
  locations := .ofList (seededLocations.map fun l => (l.id, l))
  shows := .ofList seededShows
  tickets := .empty
  nextTicketId := 1
  nextInvoiceId := 1

/-! ## 2. Prices and invoices -/

/-- The price of a ticket: that of its show, or zero if the show is not known. -/
def priceOf (s : Store) (t : Ticket) : Float :=
  match s.shows.get? t.eventShowId with
  | some w => w.price
  | none => 0.0

/-- Writes an invoice under the next id. -/
def issue (s : Store) (kind : InvoiceKind) (ticketIds : List Int64) (total : Float) :
    Invoice × Store :=
  (⟨s.nextInvoiceId, kind, ticketIds, total⟩, { s with nextInvoiceId := s.nextInvoiceId + 1 })

/-- Writing an invoice touches the invoice counter only. -/
@[simp] theorem issue_tickets (s : Store) (kind : InvoiceKind) (ids : List Int64) (x : Float) :
    (s.issue kind ids x).2.tickets = s.tickets := rfl

@[simp] theorem issue_locations (s : Store) (kind : InvoiceKind) (ids : List Int64) (x : Float) :
    (s.issue kind ids x).2.locations = s.locations := rfl

@[simp] theorem issue_shows (s : Store) (kind : InvoiceKind) (ids : List Int64) (x : Float) :
    (s.issue kind ids x).2.shows = s.shows := rfl

end Store

end BoxOffice
