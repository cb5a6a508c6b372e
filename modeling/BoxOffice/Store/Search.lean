import BoxOffice.Store.Basic
import BoxOffice.Text.LowerCase

/-!
# Looking into a store

The requests that leave a store as it is:

* `Store.findLocations` -- a page of the locations that contain the wanted words;
* `Store.location` -- one location;
* `Store.occupancy` -- the tickets of a show, and of the shows on a seating plan, by ascending key.
-/

namespace BoxOffice

/-- The part of a location contains the wanted word, if there is one; upper and lower case count
    as the same. -/
def containsWanted (part : String) : Option String → Bool
  | none => true
  | some word => Text.containsFolded part word

/-- The location contains all wanted words. -/
def LocationFilter.admits (f : LocationFilter) (l : Location) : Bool :=
  containsWanted l.name f.name && containsWanted l.address f.address
    && containsWanted l.city f.city && containsWanted l.country f.country
    && containsWanted l.postalCode f.postalCode

/-- A filter without words admits every location. -/
@[simp] theorem LocationFilter.admits_none (l : Location) :
    LocationFilter.admits ⟨none, none, none, none, none⟩ l = true := rfl

/-- The number of pages of `size` elements that `total` elements fill. -/
def pageCount (total size : Nat) : Nat := (total + size - 1) / size

namespace Store

/-- The length of a page if none is asked for. -/
def defaultPageSize : UInt32 := 10

/-- **A page of the locations that the filter admits**, by ascending key. -/
def findLocations (s : Store) (f : LocationFilter) (p : PageRequest) :
    Except Refusal (Page Location) :=
  let size := p.size.getD defaultPageSize
  let index := p.index.getD 0
  if size = 0 then .error .emptyPage
  else
    let hits := s.locations.values.filter f.admits
    .ok
      { index := index
        size := size
        totalPages := .ofNat (pageCount hits.length size.toNat)
        totalElements := .ofNat hits.length
        data := (hits.drop (index.toNat * size.toNat)).take size.toNat }

/-- **The location with an id.** -/
def location (s : Store) (id : Int64) : Except Refusal Location :=
  match s.locations.get? id with
  | none => .error .notFound
  | some l => .ok l

/-- The show of a ticket is known and takes place on the seating plan. -/
def isOnPlan (s : Store) (plan : Int64) (t : Ticket) : Bool :=
  match s.shows.get? t.eventShowId with
  | none => false
  | some w => w.seatingPlanId == plan

/-- The ticket is of the wanted show, and of a show on the wanted seating plan, as far as these are
    given. -/
def isWanted (s : Store) (f : SeatingFilter) (t : Ticket) : Bool :=
  (match f.eventShowId with
    | none => true
    | some showId => showId == t.eventShowId)
  && (match f.seatingPlanId with
    | none => true
    | some plan => s.isOnPlan plan t)

/-- **The occupancy of a show or of a seating plan.** -/
def occupancy (s : Store) (f : SeatingFilter) : List Seating :=
  (s.tickets.values.filter (s.isWanted f)).map Ticket.seating

end Store

end BoxOffice
