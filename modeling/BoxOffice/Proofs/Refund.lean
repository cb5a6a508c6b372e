import Mathlib.Data.List.Forall2
import BoxOffice.Proofs.Numbering

/-!
# Refunds match what was paid

An order is charged by one piece of arithmetic, its prices added up, and refunds by another, a price
each. They agree, whatever happens in between, since a ticket keeps its show and a show its price.

* `Store.total_of_bill` -- a bill is the prices of its tickets, added up in order;
* `RefundedIn s rs id i` -- in the run `rs` from `s` on, the ticket `id` is refunded with the invoice `i`;
* `invoice_of_refund`, `RefundedIn.price` -- that invoice is over the price that the ticket has in `s`, unless
  another ticket is handed out under its number; `not_mem_of_handedOut` -- none is, as long as the numbers do not
  come round;
* `refunds_match_payments` -- so the refunds of the tickets of an order add up to its total.
-/

namespace BoxOffice

namespace Store

/-! ## 1. Prices -/

/-- **A bill is the prices of its tickets, added up in order**: invoices over these prices have the same
    sum. -/
theorem total_of_bill {s : Store} {ids : List Int64} {is : List Invoice} {sum total : Float}
    (prices : List.Forall₂ (fun id i => ∀ t, s.tickets.get? id = some t → i.totalPrice = s.priceOf t)
      ids is)
    (bill : s.bill sum ids = .ok total) : is.foldl (fun sum i => sum + i.totalPrice) sum = total := by
  induction prices generalizing sum with
  | nil =>
    cases bill
    rfl
  | cons price _ ih =>
    rw [Store.bill] at bill
    split at bill
    · cases bill
    · next t found =>
      split at bill
      · rw [List.foldl_cons, price t found]
        exact ih bill
      · cases bill

end Store

namespace Server

/-! ## 2. Refunds in a run -/

/-- **In the run `rs` from `s` on, the ticket `id` is refunded with the invoice `i`.** -/
def RefundedIn (s : Store) (rs : List Request) (id : Int64) (i : Invoice) : Prop :=
  ∃ before r after, rs = before ++ r :: after ∧ r.sale? = some (.refund id) ∧
    deed? (answers s before).2 r = some (.refunded i)

/-- A refund after a request is one in the run with that request. -/
theorem RefundedIn.cons {s : Store} {r : Request} {rs : List Request} {id : Int64} {i : Invoice}
    (h : RefundedIn (answer s r).2 rs id i) : RefundedIn s (r :: rs) id i := by
  obtain ⟨before, r', after, rfl, asked, done⟩ := h
  exact ⟨r :: before, r', after, rfl, asked, done⟩

section Refunded

variable {s : Store} (own : ∀ k t, s.tickets.get? k = some t → t.id = k)

include own

/-- **A refund lists its ticket, for the price of the show of that ticket.** -/
theorem invoice_of_refund {before : List Request} {r : Request} {id : Int64} {i : Invoice}
    (asked : r.sale? = some (.refund id)) (done : deed? (answers s before).2 r = some (.refunded i)) :
    i.kind = .cancellation ∧ i.ticketIds = [id] ∧
      ∃ t, (answers s before).2.tickets.get? id = some t ∧ t.id = id ∧ i.totalPrice = s.priceOf t := by
  obtain ⟨_, given, e⟩ := exists_of_map_eq_ok (sell_of_deed asked done)
  cases e
  obtain ⟨kind, listed, t, found, price⟩ := Store.price_of_refund given
  have did := did_answers s before
  refine ⟨kind, listed, t, found, did.own own id t found, ?_⟩
  rw [price, Store.priceOf_congr did.shows_eq rfl]

/-- **A ticket that is stored at the start is refunded for the price that it has there**, unless another one is
    handed out under its number. -/
theorem RefundedIn.price {rs : List Request} {id : Int64}
    (other : ∀ t ∈ handedOut (deeds s rs), t.id ≠ id) {i : Invoice} (h : RefundedIn s rs id i) {t : Ticket}
    (stored : s.tickets.get? id = some t) : i.totalPrice = s.priceOf t := by
  obtain ⟨before, r, after, rfl, asked, done⟩ := h
  obtain ⟨_, _, t', found, _, price⟩ := invoice_of_refund own asked done
  rw [deeds_append, handedOut_append] at other
  obtain ⟨t₀, state, rfl, there⟩ :=
    (did_answers s before).stored_before (fun t mem => other t (List.mem_append_left _ mem)) found
  rw [stored] at there
  cases there
  exact price

end Refunded

/-! ## 3. Orders and their refunds -/

/-- Nothing is handed out under the number of a ticket that is stored, as long as the numbers do not come round. -/
theorem not_mem_of_handedOut {s : Store} (inOrder : s.InOrder) {rs : List Request}
    (room : s.nextTicketId.toInt + (handedOut (deeds s rs)).length < 2 ^ 63) {ids : List Int64}
    (stored : ∀ id ∈ ids, ∃ t, s.tickets.get? id = some t) : ∀ t ∈ handedOut (deeds s rs), t.id ∉ ids := by
  intro t handed mem
  obtain ⟨_, found⟩ := stored t.id mem
  exact (did_answers s rs).ne_of_handedOut room (inOrder.below t.id _ found) t handed rfl

/-- **Refunds match what was paid**, in any run from a store in order on: if all tickets of an order are refunded
    after it, with any requests before, between and after these, the totals of the refunds, added up in the order
    of the tickets, are the total of the order. The tickets refunded are those that were paid for, as the numbers of
    these are not handed out again: never, as long as the counter does not come round. And each refund lists its
    one ticket, for the price of the show of that ticket. -/
theorem refunds_match_payments {s : Store} (inOrder : s.InOrder) (rs : List Request) :
    (∀ before r after o i is, rs = before ++ r :: after →
      r.sale? = some (.order o) → deed? (answers s before).2 r = some (.purchased i) →
      List.Forall₂ (RefundedIn (answer (answers s before).2 r).2 after) o.ticketIds is →
      (s.nextTicketId.toInt + (handedOut (deeds s rs)).length < 2 ^ 63 ∨
        ∀ t ∈ handedOut (deeds (answer (answers s before).2 r).2 after), t.id ∉ o.ticketIds) →
      is.foldl (fun sum i => sum + i.totalPrice) 0.0 = i.totalPrice) ∧
    (∀ before r after id i, rs = before ++ r :: after →
      r.sale? = some (.refund id) → deed? (answers s before).2 r = some (.refunded i) →
      i.kind = .cancellation ∧ i.ticketIds = [id] ∧
        ∃ t, (answers s before).2.tickets.get? id = some t ∧ t.id = id ∧ i.totalPrice = s.priceOf t) := by
  constructor
  · intro before r after o i is e asked done refunds same
    subst e
    have did := did_answers s before
    obtain ⟨_, given, e⟩ := exists_of_map_eq_ok (sell_of_deed asked done)
    cases e
    obtain ⟨_, bill⟩ := Store.bill_of_order given
    have others : ∀ t ∈ handedOut (deeds (answers s before).2 (r :: after)), t.id ∉ o.ticketIds := by
      rcases same with room | others
      · obtain ⟨first, later⟩ := room_append room
        refine not_mem_of_handedOut (did.inOrder first inOrder) later fun id mem => ?_
        obtain ⟨t, found, _⟩ := Store.reserved_of_bill bill id mem
        exact ⟨t, found⟩
      · -- the order itself hands out no ticket
        rw [deeds_cons_of_deed done]
        exact others
    have ofOrder : List.Forall₂ (fun id i => id ∈ o.ticketIds ∧ RefundedIn _ after id i) o.ticketIds is :=
      (List.forall₂_and_left o.ticketIds is).mpr ⟨fun _ mem => mem, refunds⟩
    refine Store.total_of_bill (ofOrder.imp fun id i ⟨mem, refunded⟩ t stored => ?_) bill
    exact refunded.cons.price (did.own inOrder.own) (fun t handed e => others t handed (e ▸ mem)) stored
  · intro before r after id i e asked done
    exact invoice_of_refund inOrder.own asked done

/-- The seeded store, with seats at two prices reserved. -/
def withTwoTickets : Store := ((Store.seeded.addTicket 1 5).2.addTicket 3 5).2

/-- Both are paid for, the second one first. -/
def paidTogether : Request :=
  ⟨"POST", "/api/v1/orders", [("content-type", "application/json")],
   r#"{"ticketIds":[2,1],"billingName":"A","billingAddress":"B","paymentMethod":"X"}"#⟩

/-- They are given back one by one, and the seat of the first is reserved again in between. -/
def givenBack : List Request :=
  [⟨"PUT", "/api/v1/tickets/1/cancelation", [], ""⟩,
   ⟨"POST", "/api/v1/tickets", [("content-type", "application/json")],
     r#"{"eventShowId":1,"seatIds":[5]}"#⟩,
   ⟨"PUT", "/api/v1/tickets/2/cancelation", [], ""⟩]

/-- The two refunds add up to what was paid. -/
theorem refunds_match_payments_givenBack :
    withTwoTickets.InOrder ∧
    withTwoTickets.nextTicketId.toInt
      + (handedOut (deeds withTwoTickets (paidTogether :: givenBack))).length < 2 ^ 63 ∧
    paidTogether.sale? = some (.order ⟨[2, 1], "A", "B", "X"⟩) ∧
    deed? withTwoTickets paidTogether = some (.purchased ⟨1, .purchase, [2, 1], 74.9⟩) ∧
    RefundedIn (answer withTwoTickets paidTogether).2 givenBack 2 ⟨3, .cancellation, [2], 25.0⟩ ∧
    RefundedIn (answer withTwoTickets paidTogether).2 givenBack 1 ⟨2, .cancellation, [1], 49.9⟩ ∧
    (0.0 + 25.0 + 49.9 : Float) = 74.9 := by
  have inOrder : withTwoTickets.InOrder := by decide +kernel
  have asked : paidTogether.sale? = some (.order ⟨[2, 1], "A", "B", "X"⟩) := by decide +kernel
  have done : deed? withTwoTickets paidTogether = some (.purchased ⟨1, .purchase, [2, 1], 74.9⟩) := by
    rw [deed?, asked]
    decide +kernel
  have afterwards : (answer withTwoTickets paidTogether).2 =
      (withTwoTickets.sell (.order ⟨[2, 1], "A", "B", "X"⟩)).2 := by rw [answer_of_sale _ asked]
  have room : withTwoTickets.nextTicketId.toInt
      + (handedOut (deeds withTwoTickets (paidTogether :: givenBack))).length < 2 ^ 63 := by
    rw [deeds, done, afterwards]
    decide +kernel
  have second : RefundedIn (answer withTwoTickets paidTogether).2 givenBack 2
      ⟨3, .cancellation, [2], 25.0⟩ := by
    rw [afterwards]
    exact ⟨givenBack.take 2, givenBack[2], [], rfl, by decide +kernel, by decide +kernel⟩
  have first : RefundedIn (answer withTwoTickets paidTogether).2 givenBack 1
      ⟨2, .cancellation, [1], 49.9⟩ := by
    rw [afterwards]
    exact ⟨[], givenBack[0], givenBack.drop 1, rfl, by decide +kernel, by decide +kernel⟩
  exact ⟨inOrder, room, asked, done, second, first,
    (refunds_match_payments inOrder _).1 [] paidTogether givenBack _ _ _ rfl asked done
      (.cons second (.cons first .nil)) (Or.inl room)⟩

end Server

end BoxOffice
