import BoxOffice.Proofs.Atomicity

/-!
# What an order is answered

An order goes through its tickets twice: first it adds up their prices, and ends at the first ticket that is
not reserved; then it marks each of them as purchased. Between the two nothing can get lost.

* `Order.IsLacking` -- the order is turned down whatever the store holds;
* `Store.firstUnpayable` -- the first ticket that is not stored and reserved; `Store.prices` -- the prices of
  tickets in order;
* `Store.bill_eq` -- the first round in terms of these; `Store.order_of_lacking`, `Store.order_of_unpayable`,
  `Store.order_of_payable` -- the whole order;
* `Store.PaidFor` -- all that the second round does, `Store.paidFor` -- that it does it;
* `order_answered` -- so these decide the answer to every order.
-/

namespace BoxOffice

/-! ## 1. Orders that lack something -/

/-- **The order lists no ticket, or nobody to pay, or a ticket twice.** -/
def Order.IsLacking {μ : Type} (o : Order μ) : Prop :=
  o.ticketIds = [] ∨ (∀ c ∈ o.billingName.toList, Text.isBlank c = true) ∨ ¬ o.ticketIds.Nodup

/-- The two tests by which it is turned down. -/
theorem Order.isLacking_iff {μ : Type} (o : Order μ) : o.IsLacking ↔
    (o.ticketIds.isEmpty || Text.isAllBlank o.billingName) = true ∨ (!Store.allDistinct o.ticketIds) = true := by
  have blank : Text.isAllBlank o.billingName = true ↔ ∀ c ∈ o.billingName.toList, Text.isBlank c = true :=
    List.all_eq_true
  have distinct := Store.allDistinct_iff_nodup o.ticketIds
  rw [IsLacking, Bool.or_eq_true, List.isEmpty_iff, blank, or_assoc, ← distinct, Bool.not_eq_true',
    Bool.not_eq_true]

namespace Store

variable {s : Store}

/-! ## 2. The tickets of an order -/

/-- The ticket is stored and reserved. -/
def isReserved (s : Store) (id : Int64) : Bool := (s.tickets.get? id).any fun t => decide (t.state = .reserved)

/-- **The first ticket that cannot be paid for**: it is not stored and reserved. -/
def firstUnpayable (s : Store) (ids : List Int64) : Option Int64 := ids.find? fun id => !s.isReserved id

/-- The prices of the tickets, in order. -/
def prices (s : Store) (ids : List Int64) : List Float := (ids.filterMap s.tickets.get?).map s.priceOf

theorem isReserved_iff {id : Int64} :
    s.isReserved id = true ↔ ∃ t, s.tickets.get? id = some t ∧ t.state = .reserved := by
  rw [isReserved, Option.any_eq_true]
  simp only [decide_eq_true_eq]

/-- If no ticket is unpayable, all are reserved. -/
theorem firstUnpayable_eq_none_iff {ids : List Int64} :
    s.firstUnpayable ids = none ↔ ∀ id ∈ ids, ∃ t, s.tickets.get? id = some t ∧ t.state = .reserved := by
  rw [firstUnpayable, List.find?_eq_none]
  simp only [Bool.not_eq_true', Bool.not_eq_false, isReserved_iff]

/-- A ticket that is stored and cannot be paid for has been paid for. -/
theorem purchased_of_firstUnpayable {ids : List Int64} {id : Int64} (first : s.firstUnpayable ids = some id)
    {t : Ticket} (stored : s.tickets.get? id = some t) : t.state = .purchased := by
  have unpayable : ¬ s.isReserved id = true := by
    simpa using List.find?_some first
  cases state : t.state with
  | reserved => exact absurd (isReserved_iff.mpr ⟨t, stored, state⟩) unpayable
  | purchased => rfl

/-- **A bill is refused for the first ticket that cannot be paid for**, and is the prices of all tickets,
    added up in order, if there is none. -/
theorem bill_eq (s : Store) : ∀ (ids : List Int64) (sum : Float), s.bill sum ids =
    match s.firstUnpayable ids with
    | some id => .error (if s.tickets.contains id then .conflict else .notFound)
    | none => .ok ((s.prices ids).foldl (· + ·) sum)
  | [], sum => rfl
  | id :: ids, sum => by
    rw [bill, firstUnpayable, List.find?_cons]
    cases found : s.tickets.get? id with
    | none => simp [isReserved, Table.contains, found]
    | some t =>
      cases state : t.state with
      | purchased => simp [isReserved, Table.contains, found, state]
      | reserved =>
        have rest := bill_eq s ids (sum + s.priceOf t)
        rw [firstUnpayable] at rest
        simp [isReserved, prices, found, state, rest]

/-- An order that lacks something is refused. -/
theorem order_of_lacking {μ : Type} (s : Store) {o : Order μ} (lacking : o.IsLacking) :
    s.order o = (.error .unprocessable, s) := by
  rw [Order.isLacking_iff] at lacking
  rw [order]
  split
  · rfl
  · next passed => rw [if_pos (lacking.resolve_left passed)]

section Complete

variable {μ : Type} {o : Order μ} (complete : ¬ o.IsLacking)

include complete

/-- **Any other order is refused for the first ticket that cannot be paid for.** -/
theorem order_of_unpayable {id : Int64} (first : s.firstUnpayable o.ticketIds = some id) :
    s.order o = (.error (if s.tickets.contains id then .conflict else .notFound), s) := by
  rw [Order.isLacking_iff, not_or] at complete
  rw [order, if_neg complete.1, if_neg complete.2, bill_eq, first]

/-- **It is granted if there is none.** -/
theorem order_of_payable (payable : s.firstUnpayable o.ticketIds = none) :
    s.order o =
      (.ok ⟨s.nextInvoiceId, .purchase, o.ticketIds, (s.prices o.ticketIds).foldl (· + ·) 0.0⟩,
        { s with tickets := purchased s.tickets o.ticketIds, nextInvoiceId := s.nextInvoiceId + 1 }) := by
  rw [Order.isLacking_iff, not_or] at complete
  rw [order, if_neg complete.1, if_neg complete.2, bill_eq, payable]
  rfl

end Complete

/-! ## 3. What is paid for -/

/-- **The tickets listed are purchased, and nothing else happens to the store** but that the number of the next
    invoice is one greater. -/
structure PaidFor (s : Store) (ids : List Int64) (s' : Store) : Prop where
  /-- the tickets listed are purchased, and unchanged in all else -/
  listed : ∀ id ∈ ids, ∃ t, s.tickets.get? id = some t ∧ t.state = .reserved ∧
    s'.tickets.get? id = some { t with state := .purchased }
  others : ∀ id, id ∉ ids → s'.tickets.get? id = s.tickets.get? id
  /-- no ticket comes or goes -/
  keys : s'.tickets.keys = s.tickets.keys
  /-- a ticket is there when its turn comes -/
  found : ∀ before id after, ids = before ++ id :: after → (purchased s.tickets before).contains id = true
  number : s'.nextInvoiceId = s.nextInvoiceId + 1
  rest : s'.nextTicketId = s.nextTicketId ∧ s'.locations = s.locations ∧ s'.shows = s.shows

theorem keys_purchased : ∀ (ids : List Int64) (tickets : Table Ticket),
    (purchased tickets ids).keys = tickets.keys
  | [], _ => rfl
  | id :: ids, tickets => by
    have first : (tickets.modify id ({ · with state := .purchased })).keys = tickets.keys := by
      rw [Table.keys, Table.keys, Table.modify, List.map_map]
      rfl
    exact (keys_purchased ids _).trans first

/-- **Marking reserved tickets as purchased does this.** -/
theorem paidFor {ids : List Int64} (payable : s.firstUnpayable ids = none) :
    s.PaidFor ids { s with tickets := purchased s.tickets ids, nextInvoiceId := s.nextInvoiceId + 1 } := by
  have reserved := firstUnpayable_eq_none_iff.mp payable
  constructor
  case listed =>
    intro id mem
    obtain ⟨t, stored, state⟩ := reserved id mem
    refine ⟨t, stored, state, ?_⟩
    rw [get?_purchased, if_pos mem, stored]
    rfl
  case others =>
    intro id other
    rw [get?_purchased, if_neg other]
  case keys => exact keys_purchased ids s.tickets
  case found =>
    rintro before id after rfl
    obtain ⟨t, stored, _⟩ := reserved id (List.mem_append_right before List.mem_cons_self)
    rw [Table.contains, get?_purchased, stored]
    split <;> rfl
  case number => rfl
  case rest => exact ⟨rfl, rfl, rfl⟩

end Store

namespace Server

/-! ## 4. The answer to an order -/

section Answer

variable {s : Store} {o : Order String}

/-- The answer to an order is its invoice, or its refusal. -/
theorem answerSale_order (s : Store) (o : Order String) : answerSale s (.order o) =
    (granted (fun i => .json 201 (invoiceValue i)) (s.order o).1, (s.order o).2) := by
  rw [answerSale, Store.sell]
  cases (s.order o).1 <;> rfl

theorem answerSale_of_lacking (lacking : o.IsLacking) : answerSale s (.order o) = (.bare 422, s) := by
  rw [answerSale_order, s.order_of_lacking lacking]
  rfl

variable (complete : ¬ o.IsLacking)

include complete

theorem answerSale_of_missing {id : Int64} (first : s.firstUnpayable o.ticketIds = some id)
    (absent : s.tickets.get? id = none) : answerSale s (.order o) = (.bare 404, s) := by
  rw [answerSale_order, Store.order_of_unpayable complete first, Table.contains, absent]
  rfl

theorem answerSale_of_sold {id : Int64} (first : s.firstUnpayable o.ticketIds = some id) {t : Ticket}
    (stored : s.tickets.get? id = some t) : answerSale s (.order o) = (.bare 409, s) := by
  rw [answerSale_order, Store.order_of_unpayable complete first, Table.contains, stored]
  rfl

theorem answerSale_of_payable (payable : s.firstUnpayable o.ticketIds = none) : answerSale s (.order o) =
    (.json 201 (invoiceValue ⟨s.nextInvoiceId, .purchase, o.ticketIds,
      (s.prices o.ticketIds).foldl (· + ·) 0.0⟩),
      { s with tickets := Store.purchased s.tickets o.ticketIds, nextInvoiceId := s.nextInvoiceId + 1 }) := by
  rw [answerSale_order, Store.order_of_payable complete payable]
  rfl

/-- An order that lacks nothing is answered with another status. -/
theorem status_of_complete : (answerSale s (.order o)).1.status ≠ 422 := by
  cases first : s.firstUnpayable o.ticketIds with
  | none =>
    rw [answerSale_of_payable complete first]
    simp only [Reply.json]
    decide
  | some id =>
    cases found : s.tickets.get? id with
    | none =>
      rw [answerSale_of_missing complete first found]
      simp only [Reply.bare]
      decide
    | some t =>
      rw [answerSale_of_sold complete first found]
      simp only [Reply.bare]
      decide

end Answer

/-- **The answer to every order**, whatever the store. It is 422 exactly if the order lacks something.
    Otherwise the first ticket that cannot be paid for decides: the answer is 404 if it is not stored and 409
    if it is purchased, and the store stays as it is. If there is none, the answer is 201 with an invoice under
    the next number, over the prices of the tickets added up in order, and the tickets are paid for. -/
theorem order_answered (s : Store) (o : Order String) :
    (∀ r : Request, r.sale? = some (.order o) → answer s r = answerSale s (.order o)) ∧
    ((answerSale s (.order o)).1.status = 422 ↔ o.IsLacking) ∧
    (o.IsLacking → answerSale s (.order o) = (.bare 422, s)) ∧
    (¬ o.IsLacking →
      (∀ id, s.firstUnpayable o.ticketIds = some id →
        (s.tickets.get? id = none → answerSale s (.order o) = (.bare 404, s)) ∧
        (∀ t, s.tickets.get? id = some t →
          t.state = .purchased ∧ answerSale s (.order o) = (.bare 409, s))) ∧
      (s.firstUnpayable o.ticketIds = none → ∃ s',
        answerSale s (.order o) =
          (.json 201 (invoiceValue ⟨s.nextInvoiceId, .purchase, o.ticketIds,
            (s.prices o.ticketIds).foldl (· + ·) 0.0⟩), s') ∧
        s.PaidFor o.ticketIds s')) := by
  refine ⟨fun r asked => answer_of_sale s asked, ⟨fun status => ?_, fun lacking => ?_⟩, answerSale_of_lacking,
    fun complete => ⟨fun id first => ⟨answerSale_of_missing complete first, fun t stored => ?_⟩, fun payable => ?_⟩⟩
  · exact Classical.byContradiction fun complete => status_of_complete complete status
  · rw [answerSale_of_lacking lacking]
    rfl
  · exact ⟨Store.purchased_of_firstUnpayable first stored, answerSale_of_sold complete first stored⟩
  · exact ⟨_, answerSale_of_payable complete payable, Store.paidFor payable⟩

end Server

end BoxOffice
