import BoxOffice.Proofs.History
import BoxOffice.Proofs.Reservation

/-!
# Numbers are never issued twice

A store numbers its tickets and its invoices with two counters. Neither ever goes back, not when a ticket
is released or refunded either. So the numbers of a run are consecutive, and what is stored under a number
is what was handed out under it.

* `Does.ticketIds`, `Does.invoiceIds` -- a deed numbers what it hands out from the counter before it to the
  counter after it; `Did.ticketIds`, `Did.invoiceIds` -- so does a history;
* `Does.origin`, `Did.origin` -- a stored ticket was stored before, or was handed out, for the same seat;
  `Did.stored_before` -- it was stored before if its number was not handed out; `Does.free` -- a seat that is
  handed out was free;
* `Store.InOrder` -- the invariant: every ticket is stored under its own number, which is below the next
  one; `Did.inOrder` -- every history keeps it, as long as the numbers do not come round;
* `numbers_of_run` -- what follows for every run.
-/

namespace BoxOffice

/-! ## 1. The numbers that a history hands out -/

section Numbers

variable {s s' : Store} {d : Deed} {ds : List Deed}

/-- **The tickets of a deed are numbered from the counter on.** -/
theorem Does.ticketIds (h : Does s d s') :
    Consecutive s.nextTicketId (d.tickets.map (·.id)) s'.nextTicketId := by
  cases h with
  | @reserved showId seats => exact Store.consecutive_addTickets showId seats s
  | purchased | released | refunded => exact .none s.nextTicketId

/-- **The invoices of a deed are numbered from the counter on.** -/
theorem Does.invoiceIds (h : Does s d s') :
    Consecutive s.nextInvoiceId (d.invoices.map (·.id)) s'.nextInvoiceId := by
  cases h with
  | @reserved showId seats =>
    rw [(Store.addTickets_frame showId seats s).2.2]
    exact .none s.nextInvoiceId
  | released => exact .none s.nextInvoiceId
  | purchased | refunded => exact .one s.nextInvoiceId

/-- The tickets of a history are numbered from the counter on. -/
theorem Did.ticketIds (h : Did s ds s') :
    Consecutive s.nextTicketId ((handedOut ds).map (·.id)) s'.nextTicketId := by
  induction h with
  | nothing => exact .none s.nextTicketId
  | more _ last ih =>
    rw [handedOut_append, handedOut_singleton, List.map_append]
    exact ih.append last.ticketIds

/-- The invoices of a history are numbered from the counter on. -/
theorem Did.invoiceIds (h : Did s ds s') :
    Consecutive s.nextInvoiceId ((invoiced ds).map (·.id)) s'.nextInvoiceId := by
  induction h with
  | nothing => exact .none s.nextInvoiceId
  | more _ last ih =>
    rw [invoiced_append, invoiced_singleton, List.map_append]
    exact ih.append last.invoiceIds

end Numbers

/-! ## 2. Where a stored ticket comes from -/

section Origin

variable {s s' : Store} {d : Deed} {ds : List Deed} {k : Int64} {t : Ticket}

/-- **A stored ticket was stored before the deed, or was handed out by it**, and is still for the same
    seat: only its state may have changed. -/
theorem Does.origin (h : Does s d s') (found : s'.tickets.get? k = some t) :
    ∃ t₀ state, t = { t₀ with state := state } ∧
      (s.tickets.get? k = some t₀ ∨ t₀ ∈ d.tickets ∧ t₀.id = k) := by
  cases h with
  | reserved => exact ⟨t, t.state, rfl, Store.origin_addTickets found⟩
  | @purchased ids =>
    change (Store.purchased s.tickets ids).get? k = some t at found
    rw [Store.get?_purchased] at found
    split at found
    · obtain ⟨t₀, before, rfl⟩ := Option.map_eq_some_iff.mp found
      exact ⟨t₀, .purchased, rfl, Or.inl before⟩
    · exact ⟨t, t.state, rfl, Or.inl found⟩
  | released => exact ⟨t, t.state, rfl, Or.inl (Table.get?_of_get?_erase found)⟩
  | refunded => exact ⟨t, t.state, rfl, Or.inl (Table.get?_of_get?_erase found)⟩

/-- **A stored ticket was stored at the start, or was handed out since**, for the same seat. -/
theorem Did.origin (h : Did s ds s') (found : s'.tickets.get? k = some t) :
    ∃ t₀ state, t = { t₀ with state := state } ∧
      (s.tickets.get? k = some t₀ ∨ t₀ ∈ handedOut ds ∧ t₀.id = k) := by
  induction h generalizing t with
  | nothing => exact ⟨t, t.state, rfl, Or.inl found⟩
  | more _ last ih =>
    rw [handedOut_append, handedOut_singleton]
    obtain ⟨t₁, state, rfl, before | ⟨written, own⟩⟩ := last.origin found
    · obtain ⟨t₀, _, rfl, first | ⟨written, own⟩⟩ := ih before
      · exact ⟨t₀, state, rfl, Or.inl first⟩
      · exact ⟨t₀, state, rfl, Or.inr ⟨List.mem_append_left _ written, own⟩⟩
    · exact ⟨t₁, state, rfl, Or.inr ⟨List.mem_append_right _ written, own⟩⟩

/-- What a history leaves under a number that it did not hand out was there at the start. -/
theorem Did.stored_before (h : Did s ds s') (other : ∀ t ∈ handedOut ds, t.id ≠ k)
    (found : s'.tickets.get? k = some t) :
    ∃ t₀ state, t = { t₀ with state := state } ∧ s.tickets.get? k = some t₀ := by
  obtain ⟨t₀, state, same, stored | ⟨written, own⟩⟩ := h.origin found
  · exact ⟨t₀, state, same, stored⟩
  · exact absurd own (other t₀ written)

/-- A history keeps tickets under their own numbers. -/
theorem Did.own (h : Did s ds s') (before : ∀ k t, s.tickets.get? k = some t → t.id = k) :
    ∀ k t, s'.tickets.get? k = some t → t.id = k := by
  intro k t found
  obtain ⟨t₀, state, rfl, stored | ⟨_, own⟩⟩ := h.origin found
  · exact before k t₀ stored
  · exact own

/-- The tickets of a deed are for known shows, and for seats that nobody held. -/
theorem Does.free (h : Does s d s') :
    ∀ t ∈ d.tickets, s.shows.contains t.eventShowId = true ∧ ¬ s.Holds t.eventShowId t.seatId := by
  intro t ht
  cases h with
  | @reserved showId seats _ known free =>
    have seat : t.seatId ∈ seats := by
      rw [← Store.seats_addTickets showId seats s]
      exact List.mem_map_of_mem ht
    rw [(Store.state_addTickets showId seats s t ht).1]
    exact ⟨known, free t.seatId seat⟩
  | purchased | released | refunded => cases ht

/-- The tickets of a history are for shows that are known. -/
theorem Did.shows_known (h : Did s ds s') :
    ∀ t ∈ handedOut ds, s'.shows.contains t.eventShowId = true := by
  induction h with
  | nothing => exact fun t ht => by cases ht
  | more _ last ih =>
    intro t ht
    rw [handedOut_append, handedOut_singleton] at ht
    rw [last.shows_eq]
    rcases List.mem_append.mp ht with ht | ht
    · exact ih t ht
    · exact (last.free t ht).1

end Origin

/-! ## 3. Stores in order -/

/-- **Every ticket is stored under its own number, which is below the next one.** -/
structure Store.InOrder (s : Store) : Prop where
  own : ∀ k t, s.tickets.get? k = some t → t.id = k
  below : ∀ k t, s.tickets.get? k = some t → k < s.nextTicketId

/-- This can be told from the entries. -/
theorem Store.inOrder_iff (s : Store) :
    s.InOrder ↔ ∀ e ∈ s.tickets.entries, e.2.id = e.1 ∧ e.1 < s.nextTicketId := by
  constructor
  · intro h e he
    have stored := Table.lookup_of_mem s.tickets.ascending he
    exact ⟨h.own e.1 e.2 stored, h.below e.1 e.2 stored⟩
  · intro h
    exact ⟨fun k t stored => (h (k, t) (Table.mem_of_lookup stored)).1,
      fun k t stored => (h (k, t) (Table.mem_of_lookup stored)).2⟩

instance (s : Store) : Decidable s.InOrder := decidable_of_iff' _ s.inOrder_iff

section InOrder

variable {s s' : Store} {ds : List Deed}

-- the numbers do not come round
variable (room : s.nextTicketId.toInt + (handedOut ds).length < 2 ^ 63)

include room

/-- The numbers of the tickets handed out are those from the first counter to before the last. -/
theorem Did.numbered (h : Did s ds s') :
    s'.nextTicketId.toInt = s.nextTicketId.toInt + (handedOut ds).length ∧
    (∀ t ∈ handedOut ds, s.nextTicketId ≤ t.id ∧ t.id < s'.nextTicketId) ∧
    ((handedOut ds).map (·.id)).Pairwise (· < ·) := by
  rw [← List.length_map (·.id)] at room ⊢
  exact ⟨h.ticketIds.toInt_eq room,
    fun t ht => h.ticketIds.bounds room t.id (List.mem_map_of_mem ht), h.ticketIds.ascending room⟩

/-- No number below the first counter is handed out. -/
theorem Did.ne_of_handedOut (h : Did s ds s') {k : Int64} (old : k < s.nextTicketId) :
    ∀ t ∈ handedOut ds, t.id ≠ k := by
  rintro t handed rfl
  exact absurd old (Int64.not_lt.mpr ((h.numbered room).2.1 t handed).1)

/-- **A history keeps a store in order.** -/
theorem Did.inOrder (h : Did s ds s') (before : s.InOrder) : s'.InOrder := by
  obtain ⟨last, between, _⟩ := h.numbered room
  refine ⟨h.own before.own, fun k t found => ?_⟩
  obtain ⟨t₀, state, rfl, stored | ⟨written, rfl⟩⟩ := h.origin found
  · have old := before.below k t₀ stored
    rw [Int64.lt_iff_toInt_lt] at old ⊢
    omega
  · exact (between t₀ written).2

end InOrder

/-! ## 4. Runs -/

/-- The deed is an order or a refund: the two for which an invoice is written. -/
def Deed.isBilled : Deed → Bool
  | .purchased _ | .refunded _ => true
  | .reserved _ | .released _ => false

/-- There is one invoice for each order and for each refund. -/
theorem length_invoiced (ds : List Deed) : (invoiced ds).length = ds.countP Deed.isBilled := by
  induction ds with
  | nil => rfl
  | cons d ds ih =>
    have parts : invoiced (d :: ds) = d.invoices ++ invoiced ds := rfl
    rw [parts, List.length_append, ih, List.countP_cons, Nat.add_comm]
    cases d <;> rfl

namespace Server

/-- The tickets that a run hands out can be numbered in each of its two parts. -/
theorem room_append {s : Store} {rs ss : List Request}
    (room : s.nextTicketId.toInt + (handedOut (deeds s (rs ++ ss))).length < 2 ^ 63) :
    s.nextTicketId.toInt + (handedOut (deeds s rs)).length < 2 ^ 63 ∧
    (answers s rs).2.nextTicketId.toInt + (handedOut (deeds (answers s rs).2 ss)).length < 2 ^ 63 := by
  rw [deeds_append, handedOut_append, List.length_append] at room
  have first : s.nextTicketId.toInt + (handedOut (deeds s rs)).length < 2 ^ 63 := by omega
  have counter := ((did_answers s rs).numbered first).1
  exact ⟨first, by rw [counter]; omega⟩

/-- **The numbers of any run**: tickets are stored under their own numbers, from 1 to below the counter,
    and for shows that are known; the counters tell how many tickets, and how many orders and refunds,
    there were; and the numbers of tickets and of invoices ascend, so that none comes twice. -/
theorem numbers_of_run (rs : List Request)
    (fewTickets : (handedOut (deeds .seeded rs)).length < 2 ^ 63 - 1)
    (fewInvoices : (invoiced (deeds .seeded rs)).length < 2 ^ 63 - 1) :
    (∀ k t, (answers .seeded rs).2.tickets.get? k = some t →
      t.id = k ∧ 1 ≤ k ∧ k < (answers .seeded rs).2.nextTicketId ∧
      ∃ w, (answers .seeded rs).2.shows.get? t.eventShowId = some w ∧
        (answers .seeded rs).2.priceOf t = w.price) ∧
    (answers .seeded rs).2.nextTicketId.toInt = 1 + (handedOut (deeds .seeded rs)).length ∧
    (answers .seeded rs).2.nextInvoiceId.toInt = 1 + (deeds .seeded rs).countP Deed.isBilled ∧
    ((handedOut (deeds .seeded rs)).map (·.id)).Pairwise (· < ·) ∧
    ((invoiced (deeds .seeded rs)).map (·.id)).Pairwise (· < ·) := by
  have did := did_answers .seeded rs
  have firstTicket : Store.seeded.nextTicketId.toInt = 1 := rfl
  have firstInvoice : Store.seeded.nextInvoiceId.toInt = 1 := rfl
  obtain ⟨tickets, between, ascending⟩ := did.numbered (by rw [firstTicket]; omega)
  have room : Store.seeded.nextInvoiceId.toInt +
      ((invoiced (deeds .seeded rs)).map (·.id)).length < 2 ^ 63 := by
    rw [firstInvoice, List.length_map]
    omega
  refine ⟨fun k t found => ?_, by rw [tickets, firstTicket], ?_, ascending, did.invoiceIds.ascending room⟩
  · -- nothing was stored at the start, so the ticket was handed out since
    obtain ⟨t₀, state, rfl, stored | ⟨written, rfl⟩⟩ := did.origin found
    · cases stored
    · obtain ⟨low, high⟩ := between t₀ written
      obtain ⟨w, known⟩ := Option.isSome_iff_exists.mp (did.shows_known t₀ written)
      refine ⟨rfl, low, high, w, known, ?_⟩
      rw [Store.priceOf, known]
  · rw [did.invoiceIds.toInt_eq room, firstInvoice, List.length_map, length_invoiced]

/-- Two seats are reserved and the second ticket is released, so that its seat is reserved again; then the
    first ticket and the new one are paid for, and the first is given back. -/
def reservedAgain : List Request :=
  [⟨"POST", "/api/v1/tickets", [("content-type", "application/json")],
     r#"{"eventShowId":1,"seatIds":[5,6]}"#⟩,
   ⟨"DELETE", "/api/v1/tickets/2", [], ""⟩,
   ⟨"POST", "/api/v1/tickets", [("content-type", "application/json")],
     r#"{"eventShowId":1,"seatIds":[6]}"#⟩,
   ⟨"POST", "/api/v1/orders", [("content-type", "application/json")],
     r#"{"ticketIds":[1,3],"billingName":"A","billingAddress":"B","paymentMethod":"X"}"#⟩,
   ⟨"PUT", "/api/v1/tickets/1/cancelation", [], ""⟩]

theorem deeds_reservedAgain : deeds .seeded reservedAgain =
    [.reserved [⟨1, 5, 1, .reserved⟩, ⟨2, 6, 1, .reserved⟩], .released 2, .reserved [⟨3, 6, 1, .reserved⟩],
     .purchased ⟨1, .purchase, [1, 3], 99.8⟩, .refunded ⟨2, .cancellation, [1], 49.9⟩] := by
  decide +kernel

/-- The number of the released ticket is not used again. -/
theorem numbers_of_run_reservedAgain :
    (handedOut (deeds .seeded reservedAgain)).length < 2 ^ 63 - 1 ∧
    (invoiced (deeds .seeded reservedAgain)).length < 2 ^ 63 - 1 ∧
    (answers .seeded reservedAgain).2.nextTicketId.toInt = 1 + 3 ∧
    (answers .seeded reservedAgain).2.nextInvoiceId.toInt = 1 + 2 := by
  have fewTickets : (handedOut (deeds .seeded reservedAgain)).length < 2 ^ 63 - 1 := by
    rw [deeds_reservedAgain]
    decide
  have fewInvoices : (invoiced (deeds .seeded reservedAgain)).length < 2 ^ 63 - 1 := by
    rw [deeds_reservedAgain]
    decide
  have numbers := numbers_of_run reservedAgain fewTickets fewInvoices
  rw [deeds_reservedAgain] at numbers
  exact ⟨fewTickets, fewInvoices, numbers.2.1, numbers.2.2.1⟩

end Server

end BoxOffice
