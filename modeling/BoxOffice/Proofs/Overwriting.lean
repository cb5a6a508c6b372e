import BoxOffice.Proofs.DoubleBooking

/-!
# What a reservation writes over

A store can be handed over with tickets in it, and these may have any numbers. The counter knows nothing
of them: it starts with 0 or 1. A reservation looks whether a seat is held, but not whether a number is, so
a new ticket may take the place of one that is there, purchased ones not excepted.

* `Store.Prepared` -- the stores that can be handed over, `Store.Prepared.counter` -- their counters;
* `Store.get?_addTickets_iff` -- a stored ticket stays exactly if its number is not handed out;
* `Store.length_values_addTickets` -- the store grows by the tickets that take no place of another;
* `reservation_keeps_iff` -- so a reservation keeps every ticket exactly if no number that it hands out was
  in use.
-/

namespace BoxOffice

namespace Store

/-! ## 1. Stores that are handed over -/

/-- **A store as it can be handed over**: the empty or the seeded one, with any locations, shows and tickets
    put in, locations and tickets under their own ids. -/
inductive Prepared : Store → Prop where
  | empty : Prepared .empty
  | seeded : Prepared .seeded
  | location {s : Store} (before : Prepared s) (l : Location) :
      Prepared { s with locations := s.locations.insert l.id l }
  | performance {s : Store} (before : Prepared s) (id : Int64) (w : Show) :
      Prepared { s with shows := s.shows.insert id w }
  | ticket {s : Store} (before : Prepared s) (t : Ticket) :
      Prepared { s with tickets := s.tickets.insert t.id t }

/-- Whatever was put in, the counter is where it was at first. -/
theorem Prepared.counter {s : Store} (h : s.Prepared) : s.nextTicketId = 0 ∨ s.nextTicketId = 1 := by
  induction h with
  | empty => exact Or.inl rfl
  | seeded => exact Or.inr rfl
  | location _ _ ih | performance _ _ _ ih | ticket _ _ ih => exact ih

/-! ## 2. What is written over -/

section Written

variable {s : Store} {showId : Int64} {seats : List Int64}

/-- **A stored ticket stays exactly if its number is not handed out**: what is written over it is for a
    seat that nobody held. -/
theorem get?_addTickets_iff (free : ∀ seat ∈ seats, ¬ s.Holds showId seat) {k : Int64} {t : Ticket}
    (stored : s.tickets.get? k = some t) :
    (s.addTickets showId seats).2.tickets.get? k = some t ↔
      k ∉ (s.addTickets showId seats).1.map (·.id) := by
  constructor
  · intro kept handed
    obtain ⟨t', written, _, found⟩ := get?_addTickets_of_mem handed
    rw [kept] at found
    cases found
    have seat : t.seatId ∈ seats := by
      rw [← seats_addTickets showId seats s]
      exact List.mem_map_of_mem written
    exact free t.seatId seat ⟨k, t, stored, (state_addTickets showId seats s t written).1, rfl⟩
  · intro other
    rw [get?_addTickets_of_not_mem other, stored]

/-- **The store grows by the tickets written, but for those that take the place of another.** -/
theorem length_values_addTickets (distinct : ((s.addTickets showId seats).1.map (·.id)).Nodup) :
    (s.addTickets showId seats).2.tickets.values.length
        + ((s.addTickets showId seats).1.filter fun t => s.tickets.contains t.id).length
      = s.tickets.values.length + seats.length := by
  induction seats generalizing s with
  | nil => rfl
  | cons seat seats ih =>
    rw [addTickets_cons, List.map_cons, List.nodup_cons] at distinct
    have first := Table.length_values_insert s.tickets s.nextTicketId (s.addTicket showId seat).1
    have rest := ih distinct.2
    -- the first ticket is under none of the later numbers
    have same : ∀ t ∈ ((s.addTicket showId seat).2.addTickets showId seats).1,
        (s.addTicket showId seat).2.tickets.contains t.id = s.tickets.contains t.id := by
      intro t ht
      have other : t.id ≠ s.nextTicketId := fun e => distinct.1 (List.mem_map.mpr ⟨t, ht, e⟩)
      exact congrArg Option.isSome (Table.get?_insert_of_ne s.tickets other _)
    rw [List.filter_congr same] at rest
    change (s.addTicket showId seat).2.tickets.values.length = _ at first
    have id : (s.addTicket showId seat).1.id = s.nextTicketId := rfl
    rw [addTickets_cons, List.filter_cons, id, List.length_cons]
    dsimp only
    cases taken : s.tickets.contains s.nextTicketId with
    | true =>
      rw [taken, if_pos rfl] at first
      rw [if_pos rfl, List.length_cons]
      omega
    | false =>
      rw [taken, if_neg Bool.false_ne_true] at first
      rw [if_neg Bool.false_ne_true]
      omega

end Written

end Store

namespace Server

/-! ## 3. Requests -/

/-- **What a granted reservation keeps.** A store that is handed over counts from 0 or 1, whatever numbers
    its tickets have, and the reservation numbers on from there. Each stored ticket stays exactly if its
    number is not handed out, and the store grows by the seats listed but for the tickets written over. So
    no ticket is lost, and the store grows by the seats listed, exactly if no number handed out was in
    use. -/
theorem reservation_keeps_iff {s : Store} {r : Request} {q : SeatRequest} {ts : List Ticket}
    (asked : r.sale? = some (.reserve q)) (granted : deed? s r = some (.reserved ts)) :
    (s.Prepared → s.nextTicketId = 0 ∨ s.nextTicketId = 1) ∧
    Consecutive s.nextTicketId (ts.map (·.id)) (answer s r).2.nextTicketId ∧
    (∀ k t, s.tickets.get? k = some t →
      ((answer s r).2.tickets.get? k = some t ↔ k ∉ ts.map (·.id))) ∧
    (answer s r).2.tickets.values.length + (ts.filter fun t => s.tickets.contains t.id).length =
      s.tickets.values.length + q.seatIds.length ∧
    ((∀ k t, s.tickets.get? k = some t → (answer s r).2.tickets.get? k = some t) ∧
        (answer s r).2.tickets.values.length = s.tickets.values.length + q.seatIds.length ↔
      ∀ t ∈ ts, s.tickets.get? t.id = none) := by
  have few := length_tickets_of_deed granted
  obtain ⟨rfl, after, free⟩ := answer_of_reserved asked granted
  rw [after]
  have numbers := Store.consecutive_addTickets q.eventShowId q.seatIds s
  have kept := fun k t (stored : s.tickets.get? k = some t) => Store.get?_addTickets_iff free stored
  have size := Store.length_values_addTickets (numbers.nodup (by rw [List.length_map]; exact few))
  refine ⟨Store.Prepared.counter, numbers, kept, size, ?_⟩
  constructor
  · rintro ⟨all, _⟩ t written
    cases found : s.tickets.get? t.id with
    | none => rfl
    | some t' =>
      have unhanded := (kept t.id t' found).mp (all t.id t' found)
      exact absurd (List.mem_map_of_mem written) unhanded
  · intro unused
    constructor
    · intro k t stored
      refine (kept k t stored).mpr fun handed => ?_
      obtain ⟨t', written, rfl⟩ := List.mem_map.mp handed
      rw [unused t' written] at stored
      cases stored
    · have nothing : ((s.addTickets q.eventShowId q.seatIds).1.filter
          fun t => s.tickets.contains t.id) = [] := by
        rw [List.filter_eq_nil_iff]
        intro t written
        rw [Table.contains, unused t written]
        decide
      rw [nothing] at size
      exact size

/-- A request for one seat. -/
def oneSeat : Request :=
  ⟨"POST", "/api/v1/tickets", [("content-type", "application/json")],
   r#"{"eventShowId":1,"seatIds":[6]}"#⟩

/-- The seeded store with a ticket that is paid for, under the first number to be handed out. -/
def withFirstTicket : Store :=
  { Store.seeded with tickets := Store.seeded.tickets.insert 1 ⟨1, 5, 1, .purchased⟩ }

theorem sale?_oneSeat : oneSeat.sale? = some (.reserve ⟨1, [6]⟩) := by decide +kernel

theorem deed?_oneSeat : deed? withFirstTicket oneSeat = some (.reserved [⟨1, 6, 1, .reserved⟩]) := by
  decide +kernel

/-- The number of that ticket is handed out, so it does not stay. -/
theorem reservation_keeps_iff_oneSeat :
    oneSeat.sale? = some (.reserve ⟨1, [6]⟩) ∧
    deed? withFirstTicket oneSeat = some (.reserved [⟨1, 6, 1, .reserved⟩]) ∧
    ((answer withFirstTicket oneSeat).2.tickets.get? 1 = some ⟨1, 5, 1, .purchased⟩ ↔
      (1 : Int64) ∉ [1]) :=
  ⟨sale?_oneSeat, deed?_oneSeat,
    (reservation_keeps_iff sale?_oneSeat deed?_oneSeat).2.2.1 1 ⟨1, 5, 1, .purchased⟩ rfl⟩

/-- **Not every reservation keeps the tickets that are stored**: one that is paid for can be lost. -/
theorem stored_ticket_is_written_over :
    ¬ ∀ (s : Store) (r : Request) (q : SeatRequest) (ts : List Ticket), s.Prepared →
      r.sale? = some (.reserve q) → deed? s r = some (.reserved ts) →
      (∀ k t, s.tickets.get? k = some t → (answer s r).2.tickets.get? k = some t) ∧
        (answer s r).2.tickets.values.length = s.tickets.values.length + q.seatIds.length := by
  intro h
  have prepared : withFirstTicket.Prepared := .ticket .seeded ⟨1, 5, 1, .purchased⟩
  have kept := (h withFirstTicket oneSeat _ _ prepared sale?_oneSeat deed?_oneSeat).1 1
    ⟨1, 5, 1, .purchased⟩ rfl
  have after : (answer withFirstTicket oneSeat).2.tickets.get? 1 = some ⟨1, 6, 1, .reserved⟩ := by
    decide +kernel
  rw [after] at kept
  exact absurd kept (by decide)

end Server

end BoxOffice
