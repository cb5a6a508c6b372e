import Mathlib.Data.List.Nodup
import BoxOffice.Proofs.Holding
import BoxOffice.Proofs.Payment

/-!
# Giving the tickets back undoes a reservation

The tickets of a reservation can be released one by one, or paid for together and refunded one by one. Whatever
the order, no request is refused, and the store ends up with the tickets that it had before the reservation.
Only the counters tell that there was one.

* `Table.without` -- a table without several keys, `Table.get?_without` -- what is found in it;
* `TicketState.giveBack` -- the sale that gives back a ticket in a state: a release or a refund;
* `answerSale_giveBack`, `answers_giveBack` -- what giving back one ticket does, and what giving back several does;
* `Store.Added.without_eq` -- what was added to a store and is taken out again leaves no trace;
* `Undone` -- a store after a reservation that has been undone;
* `reservation_undone` -- so releases undo a reservation, and so do refunds after an order.
-/

namespace BoxOffice

/-! ## 1. Taking several entries out of a table -/

namespace Table

variable {α : Type}

/-- The table without the keys listed. -/
def without (t : Table α) (ks : List Int64) : Table α := ks.foldl erase t

/-- The keys listed are gone, all others stay as they are. -/
theorem get?_without (k : Int64) : ∀ (ks : List Int64) (t : Table α),
    (t.without ks).get? k = if k ∈ ks then none else t.get? k
  | [], _ => rfl
  | k' :: ks, t => by
    refine (get?_without k ks (t.erase k')).trans ?_
    by_cases same : k = k'
    · rw [same, get?_erase_self]
      simp
    · rw [get?_erase_of_ne t same]
      simp [same]

end Table

/-! ## 2. Giving one ticket back -/

namespace TicketState

/-- **The sale that gives a ticket in this state back.** -/
def giveBack : TicketState → Int64 → Sale
  | .reserved => .release
  | .purchased => .refund

/-- The status of its reply. -/
def backStatus : TicketState → Nat
  | .reserved => 204
  | .purchased => 200

/-- How many invoices it takes. -/
def backInvoices : TicketState → Nat
  | .reserved => 0
  | .purchased => 1

end TicketState

namespace Server

variable {s : Store}

/-- **A stored ticket can be given back**, in the way that its state asks for. -/
theorem answerSale_giveBack {id : Int64} {t : Ticket} (found : s.tickets.get? id = some t) :
    (answerSale s (t.state.giveBack id)).1.status = t.state.backStatus ∧
    (answerSale s (t.state.giveBack id)).2 =
      { s with tickets := s.tickets.erase id, nextInvoiceId := s.nextInvoiceId + .ofNat t.state.backInvoices } := by
  cases state : t.state with
  | reserved =>
    have released : s.release id = (.ok (), { s with tickets := s.tickets.erase id }) := by
      rw [Store.release, found]
      simp only [state]
    -- a release takes no number
    have counter : s.nextInvoiceId + .ofNat 0 = s.nextInvoiceId := Int64.add_zero _
    rw [TicketState.giveBack, answerSale, Store.sell, released, TicketState.backInvoices, counter]
    exact ⟨rfl, rfl⟩
  | purchased =>
    have refunded : s.refund id = (.ok ⟨s.nextInvoiceId, .cancellation, [id], s.priceOf t⟩,
        { s with tickets := s.tickets.erase id, nextInvoiceId := s.nextInvoiceId + 1 }) := by
      rw [Store.refund, found]
      simp only [state]
      rfl
    rw [TicketState.giveBack, answerSale, Store.sell, refunded]
    exact ⟨rfl, rfl⟩

/-! ## 3. Giving several tickets back -/

/-- **Tickets in one state can be given back in any order.** -/
theorem answers_giveBack {state : TicketState} {ids : List Int64} {rs : List Request}
    (asked : rs.map Request.sale? = ids.map fun id => some (state.giveBack id)) (once : ids.Nodup)
    (stored : ∀ id ∈ ids, ∃ t, s.tickets.get? id = some t ∧ t.state = state) :
    (answers s rs).1.map (·.status) = .replicate ids.length state.backStatus ∧
    (answers s rs).2 =
      { s with
        tickets := s.tickets.without ids
        nextInvoiceId := s.nextInvoiceId + .ofNat (state.backInvoices * ids.length) } := by
  induction ids generalizing s rs with
  | nil =>
    obtain rfl := List.map_eq_nil_iff.mp asked
    have counter : s.nextInvoiceId + .ofNat 0 = s.nextInvoiceId := Int64.add_zero _
    refine ⟨rfl, ?_⟩
    simp only [List.length_nil, Nat.mul_zero, counter]
    rfl
  | cons id ids ih =>
    obtain ⟨r, rs, rfl, first, later⟩ := List.map_eq_cons_iff.mp asked
    obtain ⟨other, once⟩ := List.nodup_cons.mp once
    obtain ⟨t, found, rfl⟩ := stored id List.mem_cons_self
    obtain ⟨status, after⟩ := answerSale_giveBack found
    have answered : answer s r = answerSale s (t.state.giveBack id) := answer_of_sale s first
    rw [← answered] at status after
    -- the others are still there
    have rest : ∀ k ∈ ids, ∃ t', (answer s r).2.tickets.get? k = some t' ∧ t'.state = t.state := by
      intro k mem
      have apart : k ≠ id := fun e => other (e ▸ mem)
      obtain ⟨t', there, same⟩ := stored k (List.mem_cons_of_mem id mem)
      rw [after]
      exact ⟨t', (Table.get?_erase_of_ne s.tickets apart).trans there, same⟩
    obtain ⟨statuses, last⟩ := ih later once rest
    rw [answers_cons]
    constructor
    · rw [List.map_cons, status, statuses]
      rfl
    · have counter : s.nextInvoiceId + .ofNat t.state.backInvoices + .ofNat (t.state.backInvoices * ids.length)
          = s.nextInvoiceId + .ofNat (t.state.backInvoices * (id :: ids).length) := by
        rw [Int64.add_assoc, ← Int64.ofNat_add, List.length_cons, Nat.mul_succ, Nat.add_comm]
      rw [last, after, ← counter]
      rfl

end Server

/-! ## 4. What is added and taken out again -/

/-- **What was added to a store and is taken out again leaves no trace**, whatever became of it in between. -/
theorem Store.Added.without_eq {s s' : Store} {ts : List Ticket} (h : s.Added ts s') {ids : List Int64}
    (all : ids.Perm (ts.map (·.id))) {tickets : Table Ticket}
    (others : ∀ k, k ∉ ids → tickets.get? k = s'.tickets.get? k) : tickets.without ids = s.tickets := by
  refine Table.ext_get? fun k => ?_
  rw [Table.get?_without]
  split
  · next mem =>
    obtain ⟨t, added, rfl⟩ := List.mem_map.mp (all.mem_iff.mp mem)
    exact (h.fresh t added).symm
  · next other =>
    rw [others k other]
    refine Option.ext fun t => (h.stored k t).trans (or_iff_left ?_)
    rintro ⟨added, rfl⟩
    exact other (all.mem_iff.mpr (List.mem_map_of_mem added))

namespace Server

/-- **A store after a reservation that has been undone**: it holds what it held before, its counters have gone
    on, and the reservation would be granted again. -/
structure Undone (s : Store) (r : Request) (tickets invoices : Nat) (s' : Store) : Prop where
  restored : s'.tickets = s.tickets
  rest : s'.locations = s.locations ∧ s'.shows = s.shows
  ticketNumber : s'.nextTicketId.toInt = s.nextTicketId.toInt + tickets
  /-- unless the numbers of invoices come round -/
  invoiceNumber : s.nextInvoiceId.toInt + invoices < 2 ^ 63 →
    s'.nextInvoiceId.toInt = s.nextInvoiceId.toInt + invoices
  again : (answer s' r).1.status = 201

section Reserved

variable {s s' : Store} (inOrder : s.InOrder) {r : Request} {q : SeatRequest} {ts : List Ticket}
  (asked : r.sale? = some (.reserve q)) (granted : deed? s r = some (.reserved ts))
  (room : s.nextTicketId.toInt + q.seatIds.length < 2 ^ 63)

include asked granted

/-- A reservation that was granted is granted again by a store with the same tickets and shows. -/
theorem status_again (tickets : s'.tickets = s.tickets) (shows : s'.shows = s.shows) :
    (answer s' r).1.status = 201 := by
  have before : (answerSale s (.reserve q)).1.status = 201 := by
    have reply := reply_of_deed granted
    rw [answer_of_sale s asked] at reply
    rw [answerSale, reply]
    rfl
  have taken : s'.hasTaken q = s.hasTaken q := by rw [Store.hasTaken, Store.hasTaken, tickets]
  rw [status_reserve] at before
  have now := status_reserve s' q
  rw [shows, taken, before] at now
  rw [answer_of_sale s' asked]
  exact now

include inOrder room

/-- Its tickets are added to the store. -/
theorem added_of_reserved : s.Added ts (answer s r).2 ∧ ts.length = q.seatIds.length ∧ (ts.map (·.id)).Nodup ∧
    ∀ id ∈ ts.map (·.id), ∃ t, (answer s r).2.tickets.get? id = some t ∧ t.state = .reserved := by
  obtain ⟨rfl, after, _⟩ := answer_of_reserved asked granted
  have added := inOrder.added q.eventShowId room
  have low := Int64.le_toInt s.nextTicketId
  have length := Store.length_addTickets q.eventShowId q.seatIds s
  rw [← Store.addTickets_eq, ← after] at added
  refine ⟨added, length, (Store.consecutive_addTickets _ _ s).nodup ?_, ?_⟩
  · rw [List.length_map, length]
    omega
  · rintro id mem
    obtain ⟨t, written, rfl⟩ := List.mem_map.mp mem
    exact ⟨t, (added.stored t.id t).mpr (Or.inr ⟨written, rfl⟩), (Store.state_addTickets _ _ s t written).2⟩

/-- **Its tickets can be paid for together**, listed in any order. -/
theorem paidFor_of_reserved {p : Request} {o : Order String} (ordered : p.sale? = some (.order o))
    (listed : o.ticketIds.Perm (ts.map (·.id))) (named : ¬ ∀ c ∈ o.billingName.toList, Text.isBlank c = true) :
    (answer (answer s r).2 p).1.status = 201 ∧
    (answer s r).2.PaidFor o.ticketIds (answer (answer s r).2 p).2 := by
  obtain ⟨_, _, once, reserved⟩ := added_of_reserved inOrder asked granted room
  have complete : ¬ o.IsLacking := by
    rintro (none | blank | twice)
    · obtain ⟨_, given, e⟩ := exists_of_map_eq_ok (sell_of_deed asked granted)
      cases e
      obtain ⟨t, handed, _⟩ := Store.exists_handed given
      have mem := listed.mem_iff.mpr (List.mem_map_of_mem handed)
      rw [none] at mem
      cases mem
    · exact named blank
    · exact twice (listed.nodup_iff.mpr once)
  have payable : (answer s r).2.firstUnpayable o.ticketIds = none :=
    Store.firstUnpayable_eq_none_iff.mpr fun id mem => reserved id (listed.mem_iff.mp mem)
  have answered : answer (answer s r).2 p = _ :=
    (answer_of_sale _ ordered).trans (answerSale_of_payable complete payable)
  rw [answered]
  exact ⟨rfl, Store.paidFor payable⟩

/-- **Giving back all its tickets undoes it**, in a store `s'` that holds them in one state, if nothing else has
    happened since the reservation but that invoices were written. -/
theorem undone_of_giveBack {state : TicketState} {ids : List Int64} {rs : List Request} {invoices : Nat}
    (all : ids.Perm (ts.map (·.id))) (back : rs.map Request.sale? = ids.map fun id => some (state.giveBack id))
    (stored : ∀ id ∈ ids, ∃ t, s'.tickets.get? id = some t ∧ t.state = state)
    (others : ∀ k, k ∉ ids → s'.tickets.get? k = (answer s r).2.tickets.get? k)
    (frame : s'.nextTicketId = (answer s r).2.nextTicketId ∧ s'.locations = (answer s r).2.locations ∧
      s'.shows = (answer s r).2.shows)
    (number : s'.nextInvoiceId = s.nextInvoiceId + .ofNat invoices) :
    (answers s' rs).1.map (·.status) = .replicate q.seatIds.length state.backStatus ∧
    Undone s r q.seatIds.length (invoices + state.backInvoices * q.seatIds.length) (answers s' rs).2 := by
  obtain ⟨added, length, once, _⟩ := added_of_reserved inOrder asked granted room
  obtain ⟨_, locations, shows⟩ := added.rest
  obtain ⟨statuses, after⟩ := answers_giveBack back (all.nodup_iff.mpr once) stored
  have count : ids.length = q.seatIds.length := by rw [all.length_eq, List.length_map, length]
  rw [count] at statuses after
  refine ⟨statuses, ?_⟩
  have restored : (answers s' rs).2.tickets = s.tickets := by
    rw [after]
    exact added.without_eq all others
  have sameShows : (answers s' rs).2.shows = s.shows := by
    rw [after]
    exact frame.2.2.trans shows
  constructor
  case restored => exact restored
  case rest =>
    refine ⟨?_, sameShows⟩
    rw [after]
    exact frame.2.1.trans locations
  case ticketNumber =>
    rw [after, ← length, ← added.counter]
    exact congrArg Int64.toInt frame.1
  case invoiceNumber =>
    intro few
    rw [after, number, Int64.add_assoc, ← Int64.ofNat_add]
    exact toInt_add_ofNat few
  case again => exact status_again asked granted restored sameShows

end Reserved

/-! ## 5. Both ways of giving back -/

/-- **Giving the tickets back undoes a reservation**, from any store in order on, as long as the numbers of tickets
    do not come round. If all of them are released, in any order, each release is answered with 204; if they are
    paid for in one order, listed in any order and with a name for the bill, and then refunded, in any order, the
    order is answered with 201 and each refund with 200. Either way the store ends up with what it held before,
    and the reservation would be granted again. -/
theorem reservation_undone {s : Store} (inOrder : s.InOrder) {r : Request} {q : SeatRequest} {ts : List Ticket}
    (asked : r.sale? = some (.reserve q)) (granted : deed? s r = some (.reserved ts))
    (room : s.nextTicketId.toInt + q.seatIds.length < 2 ^ 63) :
    (∀ (ids : List Int64) (rs : List Request),
      ids.Perm (ts.map (·.id)) → rs.map Request.sale? = ids.map (fun id => some (.release id)) →
      (answers (answer s r).2 rs).1.map (·.status) = .replicate q.seatIds.length 204 ∧
      Undone s r q.seatIds.length 0 (answers (answer s r).2 rs).2) ∧
    (∀ (p : Request) (o : Order String) (ids : List Int64) (rs : List Request),
      p.sale? = some (.order o) → o.ticketIds.Perm (ts.map (·.id)) →
      (¬ ∀ c ∈ o.billingName.toList, Text.isBlank c = true) →
      ids.Perm (ts.map (·.id)) → rs.map Request.sale? = ids.map (fun id => some (.refund id)) →
      (answers (answer s r).2 (p :: rs)).1.map (·.status) = 201 :: .replicate q.seatIds.length 200 ∧
      Undone s r q.seatIds.length (1 + q.seatIds.length) (answers (answer s r).2 (p :: rs)).2) := by
  obtain ⟨added, _, _, reserved⟩ := added_of_reserved inOrder asked granted room
  have number := added.rest.1
  constructor
  · intro ids rs all back
    have releases : rs.map Request.sale? = ids.map fun id => some (TicketState.reserved.giveBack id) := back
    have first : (answer s r).2.nextInvoiceId = s.nextInvoiceId + .ofNat 0 := number.trans (Int64.add_zero _).symm
    have undone := undone_of_giveBack inOrder asked granted room all releases
      (fun id mem => reserved id (all.mem_iff.mp mem)) (fun _ _ => rfl) ⟨rfl, rfl, rfl⟩ first
    rwa [TicketState.backInvoices, Nat.zero_mul, Nat.zero_add] at undone
  · intro p o ids rs ordered listed named all back
    have refunds : rs.map Request.sale? = ids.map fun id => some (TicketState.purchased.giveBack id) := back
    obtain ⟨status, paid⟩ := paidFor_of_reserved inOrder asked granted room ordered listed named
    have first : (answer (answer s r).2 p).2.nextInvoiceId = s.nextInvoiceId + .ofNat 1 := by
      rw [paid.number, number]
      rfl
    have same : ∀ k, k ∈ o.ticketIds ↔ k ∈ ids := fun k => (listed.trans all.symm).mem_iff
    have purchased : ∀ id ∈ ids, ∃ t, (answer (answer s r).2 p).2.tickets.get? id = some t ∧
        t.state = .purchased := by
      intro id mem
      obtain ⟨t, _, _, now⟩ := paid.listed id ((same id).mpr mem)
      exact ⟨_, now, rfl⟩
    obtain ⟨statuses, undone⟩ := undone_of_giveBack inOrder asked granted room all refunds purchased
      (fun k other => paid.others k fun mem => other ((same k).mp mem)) paid.rest first
    rw [TicketState.backInvoices, Nat.one_mul] at undone
    rw [answers_cons, List.map_cons, status, statuses]
    exact ⟨rfl, undone⟩

/-- Two tickets are released, the second one first. -/
def bothReleased : List Request :=
  [⟨"DELETE", "/api/v1/tickets/2", [], ""⟩, ⟨"DELETE", "/api/v1/tickets/1", [], ""⟩]

/-- Two tickets are refunded, the second one first. -/
def bothRefunded : List Request :=
  [⟨"PUT", "/api/v1/tickets/2/cancelation", [], ""⟩, ⟨"PUT", "/api/v1/tickets/1/cancelation", [], ""⟩]

/-- Either way the tickets are gone; paying for them and refunding them takes three invoices. -/
theorem reservation_undone_twoSeats :
    Store.seeded.InOrder ∧ Store.seeded.nextTicketId.toInt + ([5, 6] : List Int64).length < 2 ^ 63 ∧
    twoSeats.sale? = some (.reserve ⟨1, [5, 6]⟩) ∧
    deed? .seeded twoSeats = some (.reserved [⟨1, 5, 1, .reserved⟩, ⟨2, 6, 1, .reserved⟩]) ∧
    Undone .seeded twoSeats 2 0 (answers (answer .seeded twoSeats).2 bothReleased).2 ∧
    Undone .seeded twoSeats 2 3 (answers (answer .seeded twoSeats).2 (orderOfTwo :: bothRefunded)).2 := by
  have inOrder : Store.seeded.InOrder := by decide +kernel
  have room : Store.seeded.nextTicketId.toInt + ([5, 6] : List Int64).length < 2 ^ 63 := by decide +kernel
  have asked : twoSeats.sale? = some (.reserve ⟨1, [5, 6]⟩) := by decide +kernel
  have granted : deed? .seeded twoSeats = some (.reserved [⟨1, 5, 1, .reserved⟩, ⟨2, 6, 1, .reserved⟩]) := by
    decide +kernel
  have ordered : orderOfTwo.sale? = some (.order ⟨[1, 2], "A", "B", "X"⟩) := by decide +kernel
  have named : ¬ ∀ c ∈ "A".toList, Text.isBlank c = true := fun blank =>
    absurd (blank 'A' (by decide)) (by decide)
  have swapped : ([2, 1] : List Int64).Perm [1, 2] := .swap 1 2 []
  obtain ⟨released, refunded⟩ := reservation_undone inOrder asked granted room
  exact ⟨inOrder, room, asked, granted, (released [2, 1] bothReleased swapped (by decide +kernel)).2,
    (refunded orderOfTwo _ [2, 1] bothRefunded ordered .rfl named swapped (by decide +kernel)).2⟩

end Server

end BoxOffice
