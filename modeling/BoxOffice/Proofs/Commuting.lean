import Mathlib.Data.List.Basic
import BoxOffice.Proofs.Atomicity

/-!
# Requests about different tickets commute

Orders, releases and refunds name the tickets that they are about. Two of them that name different tickets
may come in either order: each is granted or refused as it would be alone, and the store ends up the same.
Only the numbers of invoices tell which one came first.

* `Sale.ticketIds`, `Request.ticketIds` -- the tickets that a sale, or a request, names;
* `sell_congr` -- a sale depends on the tickets that it names, on the shows, and on the invoice counter only;
* `Store.settled`, `sell_settled` -- the store after a sale is what its result makes of the store before;
  `settled_comm` -- results of sales that name different tickets settle in either order;
* `Exchanged` -- the replies to two requests in one order, and in the other;
* `answers_commute` -- so two requests about different tickets commute.
-/

namespace BoxOffice

/-! ## 1. Sales of tickets -/

namespace Sale

/-- The sale is about tickets that were handed out before. -/
def OfTickets : Sale → Prop
  | .reserve _ => False
  | .order _ | .release _ | .refund _ => True

/-- The tickets that a sale names. -/
def ticketIds : Sale → List Int64
  | .reserve _ => []
  | .order o => o.ticketIds
  | .release id | .refund id => [id]

/-- What a granted sale leaves of the tickets. -/
def leaves : Sale → Table Ticket → Table Ticket
  | .reserve _, tickets => tickets
  | .order o, tickets => Store.purchased tickets o.ticketIds
  | .release id, tickets | .refund id, tickets => tickets.erase id

/-- Tickets that a sale does not name stay as they are. -/
theorem get?_leaves_of_not_mem {c : Sale} {k : Int64} (other : k ∉ c.ticketIds) (tickets : Table Ticket) :
    (c.leaves tickets).get? k = tickets.get? k := by
  cases c with
  | reserve r => rfl
  | order o =>
    rw [leaves, Store.get?_purchased]
    exact if_neg other
  | release id | refund id => exact Table.get?_erase_of_ne tickets (List.ne_of_not_mem_cons other)

/-- What becomes of a ticket depends on that ticket only. -/
theorem get?_leaves_congr (c : Sale) {k : Int64} {tickets tickets' : Table Ticket}
    (same : tickets'.get? k = tickets.get? k) : (c.leaves tickets').get? k = (c.leaves tickets).get? k := by
  cases c with
  | reserve r => exact same
  | order o =>
    rw [leaves, leaves, Store.get?_purchased, Store.get?_purchased, same]
  | release id | refund id =>
    by_cases h : k = id
    · rw [h, leaves, leaves, Table.get?_erase_self, Table.get?_erase_self]
    · rw [leaves, leaves, Table.get?_erase_of_ne _ h, Table.get?_erase_of_ne _ h, same]

/-- **Sales that name different tickets leave the same of them in either order.** -/
theorem leaves_comm {c c' : Sale} (apart : c.ticketIds.Disjoint c'.ticketIds) (tickets : Table Ticket) :
    c'.leaves (c.leaves tickets) = c.leaves (c'.leaves tickets) := by
  refine Table.ext_get? fun k => ?_
  by_cases named : k ∈ c.ticketIds
  · have other := get?_leaves_of_not_mem (apart named)
    rw [other, get?_leaves_congr c (other tickets)]
  · have other := get?_leaves_of_not_mem named
    rw [other, get?_leaves_congr c' (other tickets)]

end Sale

/-! ## 2. What a sale depends on -/

/-- The deed with the number `n` on its invoice, if it has one. -/
def Deed.numbered (n : Int64) : Deed → Deed
  | .purchased i => .purchased { i with id := n }
  | .refunded i => .refunded { i with id := n }
  | .reserved ts => .reserved ts
  | .released id => .released id

namespace Store

variable {s s' : Store}

/-- A bill depends on the tickets that it lists, and on the shows. -/
theorem bill_congr (shows : s'.shows = s.shows) : ∀ {ids : List Int64} (sum : Float),
    (∀ id ∈ ids, s'.tickets.get? id = s.tickets.get? id) → s'.bill sum ids = s.bill sum ids
  | [], _, _ => rfl
  | id :: ids, sum, same => by
    have rest := fun sum => bill_congr shows sum fun id' mem => same id' (List.mem_cons_of_mem id mem)
    have price : ∀ t, s'.priceOf t = s.priceOf t := fun t => priceOf_congr shows rfl
    rw [bill, bill, same id List.mem_cons_self]
    simp only [rest, price]

/-- **A sale depends on the tickets that it names and on the shows**; its invoice, if there is one, has the
    number that is next. -/
theorem sell_congr {c : Sale} (ofTickets : c.OfTickets) (shows : s'.shows = s.shows)
    (same : ∀ id ∈ c.ticketIds, s'.tickets.get? id = s.tickets.get? id) :
    (s'.sell c).1 = (s.sell c).1.map (Deed.numbered s'.nextInvoiceId) := by
  cases c with
  | reserve r => exact False.elim ofTickets
  | order o =>
    have bill : s'.bill 0.0 o.ticketIds = s.bill 0.0 o.ticketIds := bill_congr shows 0.0 same
    rw [sell, sell, order, order, bill]
    by_cases lacking : (o.ticketIds.isEmpty || Text.isAllBlank o.billingName) = true
    · rw [if_pos lacking, if_pos lacking]
      rfl
    · rw [if_neg lacking, if_neg lacking]
      by_cases repeated : (!allDistinct o.ticketIds) = true
      · rw [if_pos repeated, if_pos repeated]
        rfl
      · rw [if_neg repeated, if_neg repeated]
        cases s.bill 0.0 o.ticketIds <;> rfl
  | release id =>
    rw [sell, sell, release, release, same id List.mem_cons_self]
    cases s.tickets.get? id with
    | none => rfl
    | some t => cases state : t.state <;> simp only [state] <;> rfl
  | refund id =>
    have price : ∀ t, s'.priceOf t = s.priceOf t := fun t => priceOf_congr shows rfl
    rw [sell, sell, refund, refund, same id List.mem_cons_self]
    cases s.tickets.get? id with
    | none => rfl
    | some t => cases state : t.state <;> simp only [state, price] <;> rfl

/-- The invoice of a sale has the number that is next. -/
theorem sell_numbered {c : Sale} (ofTickets : c.OfTickets) :
    (s.sell c).1.map (Deed.numbered s.nextInvoiceId) = (s.sell c).1 :=
  (sell_congr ofTickets rfl fun _ _ => rfl).symm

end Store

/-! ## 3. What a sale leaves -/

/-- How many numbers of invoices a deed uses up. -/
def Deed.numbers : Deed → Int64
  | .purchased _ | .refunded _ => 1
  | .reserved _ | .released _ => 0

namespace Store

/-- **The store after a sale of tickets with that result.** -/
def settled (s : Store) (c : Sale) : Except Refusal Deed → Store
  | .error _ => s
  | .ok d => { s with tickets := c.leaves s.tickets, nextInvoiceId := s.nextInvoiceId + d.numbers }

variable {s : Store} {c c' : Sale}

/-- The store after a sale is what its result makes of the store before. -/
theorem sell_settled (s : Store) (ofTickets : c.OfTickets) : (s.sell c).2 = s.settled c (s.sell c).1 := by
  cases c with
  | reserve r => exact False.elim ofTickets
  | order o =>
    rcases s.order_cases o with ⟨why, h⟩ | ⟨total, h, _⟩
    · rw [sell, h]
      rfl
    · rw [sell, h]
      rfl
  | release id =>
    rcases s.release_cases id with ⟨why, h⟩ | ⟨t, h, _⟩
    · rw [sell, h]
      rfl
    · -- a release uses up no number
      have counter : s.nextInvoiceId + (Deed.released id).numbers = s.nextInvoiceId := Int64.add_zero _
      rw [sell, h]
      simp only [settled, Except.map, counter]
      rfl
  | refund id =>
    rcases s.refund_cases id with ⟨why, h⟩ | ⟨t, h, _⟩
    · rw [sell, h]
      rfl
    · rw [sell, h]
      rfl

/-- The number on an invoice does not matter to the store. -/
theorem settled_numbered (s : Store) (c : Sale) (n : Int64) (x : Except Refusal Deed) :
    s.settled c (x.map (Deed.numbered n)) = s.settled c x := by
  rcases x with _ | ⟨_ | _ | _ | _⟩ <;> rfl

theorem settled_shows (s : Store) (c : Sale) (x : Except Refusal Deed) : (s.settled c x).shows = s.shows := by
  cases x <;> rfl

theorem settled_tickets_of_not_mem {k : Int64} (other : k ∉ c.ticketIds) (x : Except Refusal Deed) :
    (s.settled c x).tickets.get? k = s.tickets.get? k := by
  cases x with
  | error why => rfl
  | ok d => exact Sale.get?_leaves_of_not_mem other s.tickets

/-- **Results of sales that name different tickets settle in either order.** -/
theorem settled_comm (s : Store) (apart : c.ticketIds.Disjoint c'.ticketIds) (x x' : Except Refusal Deed) :
    (s.settled c x).settled c' x' = (s.settled c' x').settled c x := by
  cases x with
  | error why => rfl
  | ok d =>
    cases x' with
    | error why => rfl
    | ok d' =>
      have counter : s.nextInvoiceId + d.numbers + d'.numbers = s.nextInvoiceId + d'.numbers + d.numbers := by
        rw [Int64.add_assoc, Int64.add_comm d.numbers, ← Int64.add_assoc]
      simp only [settled, Sale.leaves_comm apart, counter]

section Both

variable (ofTickets : c.OfTickets) (ofTickets' : c'.OfTickets)
  (apart : c.ticketIds.Disjoint c'.ticketIds)

include ofTickets ofTickets' apart

/-- After a sale that names other tickets, a sale has the same result, but for the number of its invoice. -/
theorem sell_after (s : Store) :
    ((s.sell c).2.sell c').1 = (s.sell c').1.map (Deed.numbered (s.sell c).2.nextInvoiceId) := by
  refine sell_congr ofTickets' ?_ fun id mem => ?_
  · rw [sell_settled s ofTickets, settled_shows]
  · rw [sell_settled s ofTickets]
    exact settled_tickets_of_not_mem (fun named => apart named mem) _

/-- Two sales that name different tickets leave what their results on the same store make of it. -/
theorem sell_sell_settled (s : Store) :
    ((s.sell c).2.sell c').2 = (s.settled c (s.sell c).1).settled c' (s.sell c').1 := by
  rw [sell_settled _ ofTickets', sell_after ofTickets ofTickets' apart, settled_numbered,
    sell_settled s ofTickets]

/-- **Sales that name different tickets take a store to the same in either order.** -/
theorem sell_comm (s : Store) : ((s.sell c).2.sell c').2 = ((s.sell c').2.sell c).2 := by
  rw [sell_sell_settled ofTickets ofTickets' apart,
    sell_sell_settled ofTickets' ofTickets (List.disjoint_symm apart), settled_comm s apart]

end Both

end Store

/-! ## 4. Requests about tickets -/

namespace Server

/-- The route is one of the resources for tickets that were handed out before. -/
def Route.OfTickets : Route → Prop
  | .orders | .ticket _ | .refund _ => True
  | .locations | .location _ | .tickets | .occupancy => False

/-- **The request is an order, a release or a refund**, or would be one if it were well-formed. -/
def Request.OfTickets (r : Request) : Prop := ∃ route, r.route? = some route ∧ route.OfTickets

/-- The tickets that a request names: none if its arguments cannot be read. -/
def Request.ticketIds (r : Request) : List Int64 :=
  match r.sale? with
  | some c => c.ticketIds
  | none => []

/-- The reply is an invoice. -/
def Reply.IsInvoice (reply : Reply) : Prop := ∃ code i, reply = .json code (invoiceValue i)

theorem not_isInvoice {reply : Reply} (h : reply.contentType ≠ some "application/json") :
    ¬ reply.IsInvoice := by
  rintro ⟨code, i, rfl⟩
  exact h rfl

/-- A status alone is no invoice. -/
theorem not_isInvoice_bare (code : Nat) : ¬ (Reply.bare code).IsInvoice :=
  not_isInvoice (Option.some_ne_none _).symm

theorem contentType_rejection (e : Rejection) :
    e.reply.contentType = some "text/plain; charset=utf-8" := by
  cases e with
  | body p =>
    rw [Rejection.reply]
    split <;> rfl
  | _ => rfl

/-- The sale of a request about tickets is one of tickets. -/
theorem Request.OfTickets.sale {r : Request} (h : r.OfTickets) {c : Sale} (asked : r.sale? = some c) :
    c.OfTickets := by
  obtain ⟨route, named, ofTickets⟩ := h
  rw [Request.sale?, named] at asked
  simp only at asked
  split at asked
  · cases route with
    | locations | location | tickets | occupancy => exact False.elim ofTickets
    | orders | ticket id | refund id =>
      obtain ⟨_, _, rfl⟩ := Option.map_eq_some_iff.mp asked
      trivial
  · cases asked

/-- Arguments that cannot be read are answered the same in every store, and with no invoice. -/
theorem withArguments_of_unread {α : Type} {arguments : Except Rejection α}
    (unread : arguments.toOption = none) : ∃ reply : Reply, ¬ reply.IsInvoice ∧ ¬ reply.head.IsInvoice ∧
      ∀ (s : Store) (run : α → Reply × Store), withArguments s arguments run = (reply, s) := by
  cases arguments with
  | ok a => cases unread
  | error e =>
    have plain : e.reply.contentType ≠ some "application/json" := by
      rw [contentType_rejection]
      decide
    exact ⟨e.reply, not_isInvoice plain, not_isInvoice plain, fun _ _ => rfl⟩

/-- Running a resource for tickets without a sale is the same in every store. -/
theorem runRoute_of_unread {r : Request} {route : Route} (ofTickets : route.OfTickets)
    (unread : r.saleOn? route = none) : ∃ reply : Reply, ¬ reply.IsInvoice ∧ ¬ reply.head.IsInvoice ∧
      ∀ s query, runRoute s route query r = (reply, s) := by
  cases route with
  | locations | location | tickets | occupancy => exact False.elim ofTickets
  | orders =>
    obtain ⟨reply, plain, head, run⟩ := withArguments_of_unread (Option.map_eq_none_iff.mp unread)
    exact ⟨reply, plain, head, fun s _ => run s _⟩
  | ticket id | refund id =>
    rw [Request.saleOn?, ← toOption_mapError Rejection.path] at unread
    obtain ⟨reply, plain, head, run⟩ := withArguments_of_unread (Option.map_eq_none_iff.mp unread)
    exact ⟨reply, plain, head, fun s _ => run s _⟩

/-- **A request about tickets that is no sale is answered the same in every store**, with no invoice. -/
theorem answer_of_unread {r : Request} (h : r.OfTickets) (unread : r.sale? = none) :
    ∃ reply : Reply, ¬ reply.IsInvoice ∧ ∀ s, answer s r = (reply, s) := by
  obtain ⟨route, named, ofTickets⟩ := h
  rw [Request.sale?, named] at unread
  simp only [Request.route?] at named unread
  by_cases accepted : route.accepts r.method = true
  · rw [if_pos accepted] at unread
    obtain ⟨reply, plain, head, run⟩ := runRoute_of_unread ofTickets unread
    refine ⟨if r.method = "HEAD" then reply.head else reply, ?_, fun s => ?_⟩
    · split
      · exact head
      · exact plain
    · simp only [answer, named, accepted, if_true, run]
  · refine ⟨.notAllowed route, not_isInvoice (Option.some_ne_none _).symm, fun s => ?_⟩
    simp only [answer, named, accepted, if_false, Bool.false_eq_true]

/-! ## 5. Replies in either order -/

/-- **The replies to two requests, first in one order, then in the other**: `first` and `second` if the
    first request comes first, `second'` and `first'` if it comes second. If both are invoices, they keep
    all but their numbers, which are exchanged; otherwise the replies are the same. -/
inductive Exchanged : (first second second' first' : Reply) → Prop where
  | invoices (code code' : Nat) (i j : Invoice) :
      Exchanged (.json code (invoiceValue i)) (.json code' (invoiceValue j))
        (.json code' (invoiceValue { j with id := i.id })) (.json code (invoiceValue { i with id := j.id }))
  | same {first second : Reply} (one : ¬ (first.IsInvoice ∧ second.IsInvoice)) :
      Exchanged first second second first

/-- The replies have the same statuses in either order. -/
theorem Exchanged.status {first second second' first' : Reply} (h : Exchanged first second second' first') :
    first'.status = first.status ∧ second'.status = second.status := by
  cases h with
  | invoices => exact ⟨by simp only [Reply.json], by simp only [Reply.json]⟩
  | same => exact ⟨rfl, rfl⟩

/-- **The reply to a sale of tickets** is an invoice, of which the sale decides all but the number, or no
    invoice. -/
theorem reply_cases (s : Store) {c : Sale} (ofTickets : c.OfTickets) :
    (∃ (code : Nat) (i : Invoice),
      (∀ n, granted Reply.ofDeed ((s.sell c).1.map (Deed.numbered n)) =
        .json code (invoiceValue { i with id := n })) ∧
      (s.sell c).2.nextInvoiceId = s.nextInvoiceId + 1) ∨
    (¬ (granted Reply.ofDeed (s.sell c).1).IsInvoice ∧
      (∀ n, (s.sell c).1.map (Deed.numbered n) = (s.sell c).1) ∧
      (s.sell c).2.nextInvoiceId = s.nextInvoiceId) := by
  rw [Store.sell_settled s ofTickets]
  cases c with
  | reserve r => exact False.elim ofTickets
  | order o =>
    rw [Store.sell]
    cases (s.order o).1 with
    | error why => exact Or.inr ⟨not_isInvoice_bare _, fun _ => rfl, rfl⟩
    | ok i => exact Or.inl ⟨201, i, fun _ => rfl, rfl⟩
  | release id =>
    rw [Store.sell]
    cases (s.release id).1 with
    | error why => exact Or.inr ⟨not_isInvoice_bare _, fun _ => rfl, rfl⟩
    | ok _ => exact Or.inr ⟨not_isInvoice_bare _, fun _ => rfl, Int64.add_zero _⟩
  | refund id =>
    rw [Store.sell]
    cases (s.refund id).1 with
    | error why => exact Or.inr ⟨not_isInvoice_bare _, fun _ => rfl, rfl⟩
    | ok i => exact Or.inl ⟨200, i, fun _ => rfl, rfl⟩

/-- The replies to sales that name different tickets. -/
theorem exchanged_of_sales (s : Store) {c c' : Sale} (ofTickets : c.OfTickets) (ofTickets' : c'.OfTickets)
    (apart : c.ticketIds.Disjoint c'.ticketIds) :
    Exchanged (granted Reply.ofDeed (s.sell c).1) (granted Reply.ofDeed ((s.sell c).2.sell c').1)
      (granted Reply.ofDeed (s.sell c').1) (granted Reply.ofDeed ((s.sell c').2.sell c).1) := by
  have numbered := Store.sell_numbered (s := s) ofTickets
  have numbered' := Store.sell_numbered (s := s) ofTickets'
  rw [Store.sell_after ofTickets ofTickets' apart, Store.sell_after ofTickets' ofTickets (List.disjoint_symm apart)]
  rcases reply_cases s ofTickets with ⟨code, i, invoice, counter⟩ | ⟨plain, any, counter⟩
  · rcases reply_cases s ofTickets' with ⟨code', j, invoice', counter'⟩ | ⟨plain, any, counter'⟩
    · -- each gets the next number if it comes first, and the number after that if it comes second
      have first := invoice s.nextInvoiceId
      have first' := invoice' s.nextInvoiceId
      rw [numbered] at first
      rw [numbered'] at first'
      rw [counter, counter', first, first', invoice, invoice']
      exact .invoices code code' { i with id := s.nextInvoiceId } { j with id := s.nextInvoiceId + 1 }
    · rw [counter', numbered, any]
      exact .same fun both => plain both.2
  · rw [counter, numbered', any]
    exact .same fun both => plain both.1

/-! ## 6. Requests in either order -/

/-- **Requests about different tickets commute**, whatever the store: if two requests, each an order, a
    release or a refund, name different tickets, then in either order the store ends up the same, each
    has the same status, and the replies are the same but for the numbers of invoices, which are exchanged
    if both get one. -/
theorem answers_commute (s : Store) {r r' : Request} (ofTickets : r.OfTickets) (ofTickets' : r'.OfTickets)
    (apart : r.ticketIds.Disjoint r'.ticketIds) :
    (answer (answer s r).2 r').2 = (answer (answer s r').2 r).2 ∧
    (answer (answer s r').2 r).1.status = (answer s r).1.status ∧
    (answer s r').1.status = (answer (answer s r).2 r').1.status ∧
    Exchanged (answer s r).1 (answer (answer s r).2 r').1 (answer s r').1 (answer (answer s r').2 r).1 := by
  have whole : (answer (answer s r).2 r').2 = (answer (answer s r').2 r).2 ∧
      Exchanged (answer s r).1 (answer (answer s r).2 r').1 (answer s r').1 (answer (answer s r').2 r).1 := by
    -- a request that is no sale neither sees nor changes the store; only two sales can meet
    cases asked : r.sale? with
    | none =>
      obtain ⟨reply, plain, same⟩ := answer_of_unread ofTickets asked
      simp only [same]
      exact ⟨trivial, .same fun both => plain both.1⟩
    | some c =>
      cases asked' : r'.sale? with
      | none =>
        obtain ⟨reply, plain, same⟩ := answer_of_unread ofTickets' asked'
        simp only [same]
        exact ⟨trivial, .same fun both => plain both.2⟩
      | some c' =>
        rw [Request.ticketIds, Request.ticketIds, asked, asked'] at apart
        simp only [answer_of_sale _ asked, answer_of_sale _ asked']
        exact ⟨Store.sell_comm (ofTickets.sale asked) (ofTickets'.sale asked') apart s,
          exchanged_of_sales s (ofTickets.sale asked) (ofTickets'.sale asked') apart⟩
  exact ⟨whole.1, whole.2.status.1, whole.2.status.2, whole.2⟩

/-- The seeded store, with one seat reserved and another one paid for. -/
def withOneSold : Store :=
  { ((Store.seeded.addTicket 1 5).2.addTicket 3 5).2 with
    tickets := Store.purchased ((Store.seeded.addTicket 1 5).2.addTicket 3 5).2.tickets [2] }

/-- The first ticket is paid for. -/
def firstBought : Request :=
  ⟨"POST", "/api/v1/orders", [("content-type", "application/json")],
   r#"{"ticketIds":[1],"billingName":"A","billingAddress":"B","paymentMethod":"X"}"#⟩

/-- The second ticket is given back. -/
def secondReturned : Request := ⟨"PUT", "/api/v1/tickets/2/cancelation", [], ""⟩

/-- Both are granted, so the one that comes first gets the first number. -/
theorem answers_commute_boughtAndReturned :
    firstBought.OfTickets ∧ secondReturned.OfTickets ∧
    firstBought.ticketIds.Disjoint secondReturned.ticketIds ∧
    (answer withOneSold firstBought).1.status = 201 ∧
    (answer withOneSold secondReturned).1.status = 200 ∧
    (answer (answer withOneSold firstBought).2 secondReturned).2 =
      (answer (answer withOneSold secondReturned).2 firstBought).2 ∧
    (answer (answer withOneSold secondReturned).2 firstBought).1.status = 201 := by
  have bought : firstBought.OfTickets := ⟨.orders, by decide +kernel, trivial⟩
  have returned : secondReturned.OfTickets := ⟨.refund "2", by decide +kernel, trivial⟩
  have first : firstBought.ticketIds = [1] := by decide +kernel
  have second : secondReturned.ticketIds = [2] := by decide +kernel
  have apart : firstBought.ticketIds.Disjoint secondReturned.ticketIds := by
    rw [first, second, List.singleton_disjoint]
    decide
  have granted : (answer withOneSold firstBought).1.status = 201 := by decide +kernel
  have granted' : (answer withOneSold secondReturned).1.status = 200 := by decide +kernel
  obtain ⟨store, status, _⟩ := answers_commute withOneSold bought returned apart
  exact ⟨bought, returned, apart, granted, granted', store, status.trans granted⟩

end Server

end BoxOffice
