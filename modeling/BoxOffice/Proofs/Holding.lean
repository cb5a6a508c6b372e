import BoxOffice.Proofs.Numbering

/-!
# What a reservation is answered, and how long it holds

A reservation is turned down for want of seats, for an unknown show, or for a seat that somebody holds, in this
order. A granted one adds one ticket for each seat listed to those in the store. The seat of a ticket stays held
until the ticket is given back, whatever else happens.

* `Store.newTickets` -- the tickets that a reservation writes; `Store.addTickets_eq` -- that it writes these;
* `Store.Added` -- the tickets are added to the store and nothing else happens; `Store.InOrder.added` --
  writing them to a store in order does this;
* `takenBack` -- the tickets that a history takes back; `Does.keeps`, `Did.keeps` -- any other ticket stays, and
  so does its seat;
* `reservation_answered` -- what this says of requests.
-/

namespace BoxOffice

/-! ## 1. The tickets that are written -/

theorem toInt_add_ofNat {n : Int64} {i : Nat} (room : n.toInt + i < 2 ^ 63) :
    (n + Int64.ofNat i).toInt = n.toInt + i := by
  induction i with
  | zero => simp
  | succ i ih =>
    have before : (n + Int64.ofNat i).toInt = n.toInt + i := ih (by omega)
    rw [Int64.ofNat_add, ← Int64.add_assoc]
    have next : (n + Int64.ofNat i + 1).toInt = (n + Int64.ofNat i).toInt + 1 := toInt_add_one (by omega)
    exact next.trans (by omega)

namespace Store

/-- **A reserved ticket for each seat**, numbered from the counter on. -/
def newTickets (s : Store) (showId : Int64) (seats : List Int64) : List Ticket :=
  seats.mapIdx fun i seat => ⟨s.nextTicketId + Int64.ofNat i, seat, showId, .reserved⟩

/-- These are the tickets that a reservation writes. -/
theorem addTickets_eq (showId : Int64) (seats : List Int64) (s : Store) :
    (s.addTickets showId seats).1 = s.newTickets showId seats := by
  induction seats generalizing s with
  | nil => rfl
  | cons seat seats ih =>
    have first : s.nextTicketId + Int64.ofNat 0 = s.nextTicketId := Int64.add_zero _
    have next : (s.addTicket showId seat).2.nextTicketId = s.nextTicketId + 1 := rfl
    rw [addTickets_cons, ih, newTickets, newTickets, List.mapIdx_cons, first, next]
    simp only [add_one_add_ofNat]
    rfl

/-! ## 2. What is added to a store -/

/-- **The tickets are added to the store, and nothing else happens to it** but that the counter goes on. -/
structure Added (s : Store) (ts : List Ticket) (s' : Store) : Prop where
  /-- what was stored and what is added is stored, and nothing else -/
  stored : ∀ k t, s'.tickets.get? k = some t ↔ s.tickets.get? k = some t ∨ t ∈ ts ∧ t.id = k
  /-- no ticket takes the place of another -/
  fresh : ∀ t ∈ ts, s.tickets.get? t.id = none
  counter : s'.nextTicketId.toInt = s.nextTicketId.toInt + ts.length
  rest : s'.nextInvoiceId = s.nextInvoiceId ∧ s'.locations = s.locations ∧ s'.shows = s.shows

section Added

variable {s : Store} (inOrder : s.InOrder) (showId : Int64) {seats : List Int64}
  (room : s.nextTicketId.toInt + seats.length < 2 ^ 63)

include inOrder room

/-- The numbers of the tickets written are not in use. -/
theorem InOrder.fresh {t : Ticket} (written : t ∈ (s.addTickets showId seats).1) :
    s.tickets.get? t.id = none := by
  rw [← length_addTickets showId seats s, ← List.length_map (·.id)] at room
  have low := ((consecutive_addTickets showId seats s).bounds room t.id (List.mem_map_of_mem written)).1
  cases found : s.tickets.get? t.id with
  | none => rfl
  | some t' => exact absurd (inOrder.below t.id t' found) (Int64.not_lt.mpr low)

/-- **Writing tickets to a store in order adds them to it.** -/
theorem InOrder.added : s.Added (s.newTickets showId seats) (s.addTickets showId seats).2 := by
  have frame := addTickets_frame showId seats s
  have low := Int64.le_toInt s.nextTicketId
  rw [← addTickets_eq]
  constructor
  case stored =>
    intro k t
    constructor
    · exact origin_addTickets
    · rintro (before | ⟨written, rfl⟩)
      · -- a stored ticket stays, as its number is not handed out again
        refine (get?_addTickets_of_not_mem fun handed => ?_).trans before
        obtain ⟨t', written, rfl⟩ := List.mem_map.mp handed
        rw [inOrder.fresh showId room written] at before
        cases before
      · exact get?_addTickets (by omega) written
  case fresh => exact fun t => inOrder.fresh showId room
  case counter =>
    have numbers := consecutive_addTickets showId seats s
    rw [← length_addTickets showId seats s, ← List.length_map (·.id)] at room
    rw [numbers.toInt_eq room, List.length_map]
  case rest => exact ⟨frame.2.2, frame.1, frame.2.1⟩

end Added

end Store

/-! ## 3. Tickets that are not taken back -/

/-- The tickets that a deed takes back. -/
def Deed.takenBack : Deed → List Int64
  | .released id => [id]
  | .refunded i => i.ticketIds
  | .reserved _ | .purchased _ => []

/-- **The tickets that a history takes back.** -/
def takenBack (ds : List Deed) : List Int64 := ds.flatMap Deed.takenBack

theorem takenBack_concat (ds : List Deed) (d : Deed) : takenBack (ds ++ [d]) = takenBack ds ++ d.takenBack := by
  simp [takenBack]

/-- One deed keeps a store in order. -/
theorem Does.inOrder {s s' : Store} {d : Deed} (h : Does s d s') (before : s.InOrder)
    (room : s.nextTicketId.toInt + d.tickets.length < 2 ^ 63) : s'.InOrder :=
  (Did.nothing.more h).inOrder (by rwa [List.nil_append, handedOut_singleton]) before

section Keeps

variable {s s' : Store} {d : Deed} {ds : List Deed} (inOrder : s.InOrder) {k : Int64} {t : Ticket}
  (stored : s.tickets.get? k = some t)

include inOrder stored

/-- **A deed keeps each ticket that it does not take back**: only its state may change. -/
theorem Does.keeps (h : Does s d s') (room : s.nextTicketId.toInt + d.tickets.length < 2 ^ 63)
    (kept : k ∉ d.takenBack) : ∃ state, s'.tickets.get? k = some { t with state := state } := by
  cases h with
  | @reserved showId seats =>
    rw [Deed.tickets, Store.length_addTickets] at room
    exact ⟨t.state, ((inOrder.added showId room).stored k t).mpr (Or.inl stored)⟩
  | @purchased ids =>
    change ∃ state, (Store.purchased s.tickets ids).get? k = some { t with state := state }
    rw [Store.get?_purchased, stored]
    split
    · exact ⟨.purchased, rfl⟩
    · exact ⟨t.state, rfl⟩
  | @released id =>
    have other : k ≠ id := List.ne_of_not_mem_cons kept
    exact ⟨t.state, (Table.get?_erase_of_ne s.tickets other).trans stored⟩
  | @refunded id =>
    have other : k ≠ id := List.ne_of_not_mem_cons kept
    exact ⟨t.state, (Table.get?_erase_of_ne s.tickets other).trans stored⟩

/-- **So does a history**, as long as the numbers do not come round. -/
theorem Did.keeps (h : Did s ds s') (room : s.nextTicketId.toInt + (handedOut ds).length < 2 ^ 63)
    (kept : k ∉ takenBack ds) : ∃ state, s'.tickets.get? k = some { t with state := state } := by
  induction h with
  | nothing => exact ⟨t.state, stored⟩
  | @more ds s₁ s₂ d before last ih =>
    rw [handedOut_append, handedOut_singleton, List.length_append] at room
    rw [takenBack_concat, List.mem_append, not_or] at kept
    obtain ⟨state, found⟩ := ih (by omega) kept.1
    -- the last deed starts where the counter stands after all numbers handed out before it
    have counter := (before.numbered (by omega)).1
    obtain ⟨state', now⟩ := last.keeps (before.inOrder (by omega) inOrder) found (by omega) kept.2
    exact ⟨state', now⟩

end Keeps

/-! ## 4. The answer to a reservation -/

namespace Server

section Answer

variable {s : Store} {q : SeatRequest}

/-- The answer to a reservation is its tickets, or its refusal. -/
theorem answerSale_reserve (s : Store) (q : SeatRequest) : answerSale s (.reserve q) =
    (granted (fun ts => .json 201 (.list (ts.map ticketValue))) (s.reserve q).1, (s.reserve q).2) := by
  rw [answerSale, Store.sell]
  cases (s.reserve q).1 <;> rfl

/-- Which of the reasons comes first decides the status. -/
theorem status_reserve (s : Store) (q : SeatRequest) : (answerSale s (.reserve q)).1.status =
    if q.seatIds = [] then 422
    else if s.shows.contains q.eventShowId = false then 404
    else if s.hasTaken q = true then 409
    else 201 := by
  rw [answerSale_reserve, Store.reserve]
  simp only [List.isEmpty_iff, Bool.not_eq_true']
  split
  · rfl
  · split
    · rfl
    · split
      · rfl
      · simp only [granted, Reply.json]

variable (seats : q.seatIds ≠ []) (known : s.shows.contains q.eventShowId = true)

include seats known

theorem answerSale_of_held (held : ∃ seat ∈ q.seatIds, s.Holds q.eventShowId seat) :
    answerSale s (.reserve q) = (.bare 409, s) := by
  rw [answerSale_reserve, Store.reserve, if_neg (mt List.isEmpty_iff.mp seats), if_neg (by simp [known]),
    if_pos ((s.hasTaken_iff q).mpr held)]
  rfl

theorem answerSale_of_free (free : ¬ ∃ seat ∈ q.seatIds, s.Holds q.eventShowId seat) :
    answerSale s (.reserve q) =
      (.json 201 (.list ((s.newTickets q.eventShowId q.seatIds).map ticketValue)),
        (s.addTickets q.eventShowId q.seatIds).2) := by
  rw [answerSale_reserve, Store.reserve, if_neg (mt List.isEmpty_iff.mp seats), if_neg (by simp [known]),
    if_neg (mt (s.hasTaken_iff q).mp free), ← Store.addTickets_eq]
  rfl

end Answer

/-- **The seat of a ticket is held until the ticket is taken back**: whatever run follows, a reservation of
    that seat is refused with 409 after it. -/
def HeldFrom (s : Store) (t : Ticket) : Prop :=
  ∀ rs : List Request, s.nextTicketId.toInt + (handedOut (deeds s rs)).length < 2 ^ 63 →
    t.id ∉ takenBack (deeds s rs) →
    ∀ (r : Request) (q : SeatRequest), r.sale? = some (.reserve q) → q.eventShowId = t.eventShowId →
      t.seatId ∈ q.seatIds → answer (answers s rs).2 r = (.bare 409, (answers s rs).2)

/-- This is so for every ticket that is stored in a store in order. -/
theorem heldFrom {s : Store} (inOrder : s.InOrder) {t : Ticket} (stored : s.tickets.get? t.id = some t)
    (known : s.shows.contains t.eventShowId = true) : HeldFrom s t := by
  intro rs room kept r q asked sameShow seat
  have did := did_answers s rs
  obtain ⟨state, found⟩ := did.keeps inOrder stored room kept
  have held : (answers s rs).2.Holds q.eventShowId t.seatId := ⟨t.id, _, found, sameShow.symm, rfl⟩
  rw [← sameShow, ← did.shows_eq] at known
  exact (answer_of_sale _ asked).trans
    (answerSale_of_held (List.ne_nil_of_mem seat) known ⟨t.seatId, seat, held⟩)

/-- **The answer to every reservation**, from a store in order, as long as the numbers do not come round. It is
    422 exactly if no seat is listed, else 404 exactly if the show is not known, else 409 exactly if somebody
    holds one of the seats, and else 201 with a reserved ticket for each seat, numbered from the counter on.
    These tickets are added to the store, and their seats are held until they are taken back. -/
theorem reservation_answered {s : Store} (inOrder : s.InOrder) (q : SeatRequest)
    (room : s.nextTicketId.toInt + q.seatIds.length < 2 ^ 63) :
    (∀ r : Request, r.sale? = some (.reserve q) → answer s r = answerSale s (.reserve q)) ∧
    ((answerSale s (.reserve q)).1.status = 422 ↔ q.seatIds = []) ∧
    (q.seatIds ≠ [] →
      ((answerSale s (.reserve q)).1.status = 404 ↔ s.shows.contains q.eventShowId = false)) ∧
    (q.seatIds ≠ [] → s.shows.contains q.eventShowId = true →
      ((answerSale s (.reserve q)).1.status = 409 ↔
        ∃ seat ∈ q.seatIds, s.Holds q.eventShowId seat)) ∧
    (q.seatIds ≠ [] → s.shows.contains q.eventShowId = true →
      (¬ ∃ seat ∈ q.seatIds, s.Holds q.eventShowId seat) →
      ∃ s',
        answerSale s (.reserve q) =
          (.json 201 (.list ((s.newTickets q.eventShowId q.seatIds).map ticketValue)), s') ∧
        (∀ i < q.seatIds.length, (s.nextTicketId + Int64.ofNat i).toInt = s.nextTicketId.toInt + i) ∧
        s.Added (s.newTickets q.eventShowId q.seatIds) s' ∧
        ∀ t ∈ s.newTickets q.eventShowId q.seatIds, HeldFrom s' t) := by
  have status := status_reserve s q
  have taken := s.hasTaken_iff q
  refine ⟨fun r asked => answer_of_sale s asked, ?_, fun seats => ?_, fun seats known => ?_,
    fun seats known free => ?_⟩
  · rw [status]
    grind
  · rw [status, if_neg seats]
    grind
  · rw [status, if_neg seats, if_neg (by simp [known]), ← taken]
    grind
  · have does : Does s _ (s.addTickets q.eventShowId q.seatIds).2 :=
      .reserved seats known fun seat mem held => free ⟨seat, mem, held⟩
    have after := does.inOrder inOrder (by rwa [Deed.tickets, Store.length_addTickets])
    have added := inOrder.added q.eventShowId room
    refine ⟨_, answerSale_of_free seats known free, fun i before => toInt_add_ofNat (by omega), added, ?_⟩
    intro t written
    refine heldFrom after ((added.stored t.id t).mpr (Or.inr ⟨written, rfl⟩)) ?_
    rw [← Store.addTickets_eq] at written
    rw [added.rest.2.2, (Store.state_addTickets _ _ s t written).1]
    exact known

/-- A request for two seats. -/
def twoSeats : Request :=
  ⟨"POST", "/api/v1/tickets", [("content-type", "application/json")],
   r#"{"eventShowId":1,"seatIds":[5,6]}"#⟩

/-- The second of their tickets is released. -/
def secondReleased : Request := ⟨"DELETE", "/api/v1/tickets/2", [], ""⟩

/-- The first one is not, so the two seats are refused to the next who asks for them. -/
theorem reservation_answered_twoSeats :
    Store.seeded.InOrder ∧ Store.seeded.nextTicketId.toInt + ([5, 6] : List Int64).length < 2 ^ 63 ∧
    twoSeats.sale? = some (.reserve ⟨1, [5, 6]⟩) ∧ (answer .seeded twoSeats).1.status = 201 ∧
    takenBack (deeds (answer .seeded twoSeats).2 [secondReleased]) = [2] ∧
    (answer (answers (answer .seeded twoSeats).2 [secondReleased]).2 twoSeats).1 = .bare 409 := by
  have inOrder : Store.seeded.InOrder := by decide +kernel
  have room : Store.seeded.nextTicketId.toInt + ([5, 6] : List Int64).length < 2 ^ 63 := by decide +kernel
  have asked : twoSeats.sale? = some (.reserve ⟨1, [5, 6]⟩) := by decide +kernel
  obtain ⟨same, _, _, _, granted⟩ := reservation_answered inOrder ⟨1, [5, 6]⟩ room
  obtain ⟨s', answered, _, _, held⟩ := granted (List.cons_ne_nil 5 [6]) (by decide +kernel) (by
    rintro ⟨_, _, _, _, stored, _⟩
    cases stored)
  have after : (answer .seeded twoSeats).2 = s' := by rw [same twoSeats asked, answered]
  have status : (answer .seeded twoSeats).1.status = 201 := by
    rw [same twoSeats asked, answered]
    simp only [Reply.json]
  have released : takenBack (deeds (answer .seeded twoSeats).2 [secondReleased]) = [2] := by decide +kernel
  have few : (answer .seeded twoSeats).2.nextTicketId.toInt
      + (handedOut (deeds (answer .seeded twoSeats).2 [secondReleased])).length < 2 ^ 63 := by decide +kernel
  have refused := held ⟨1, 5, 1, .reserved⟩ (by decide +kernel) [secondReleased] (by rwa [← after])
    (by rw [← after, released]; decide) twoSeats _ asked rfl (by decide)
  refine ⟨inOrder, room, asked, status, released, ?_⟩
  rw [after, refused]

end Server

end BoxOffice
