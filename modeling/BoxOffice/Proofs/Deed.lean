import BoxOffice.Store.Sale

/-!
# What a sale does to a store

Four kinds of requests can change a store: the *sales*. A granted sale leaves a *deed*, which says
what was handed out or taken back; a refused one leaves nothing.

* `Sale`, `Deed` -- a sale asked for, and what a granted one did;
* `Store.sell` -- a sale on a store;
* `Does s d s'` -- all that the deed `d` can take the store `s` to, and what `s` was like before;
* `Store.reserve_cases`, `Store.order_cases`, `Store.release_cases`, `Store.refund_cases` -- each of the
  four sales is refused, or does all that is listed there;
* `Store.sell_cases` -- a sale is refused and changes nothing, or `Does` something. Every fact about
  sales is derived from these, case by case.
-/

namespace BoxOffice

/-! ## 1. Sales and deeds -/

/-- A request that may change a store. -/
inductive Sale where
  | reserve (r : SeatRequest)
  | order (o : Order String)
  | release (id : Int64)
  | refund (id : Int64)
  deriving DecidableEq, Repr

/-- What a granted sale did. -/
inductive Deed where
  | reserved (ts : List Ticket)
  | purchased (i : Invoice)
  | released (id : Int64)
  | refunded (i : Invoice)
  deriving DecidableEq, Repr

namespace Store

/-- A sale, and the store after it. -/
def sell (s : Store) : Sale → Except Refusal Deed × Store
  | .reserve r => ((s.reserve r).1.map .reserved, (s.reserve r).2)
  | .order o => ((s.order o).1.map .purchased, (s.order o).2)
  | .release id => ((s.release id).1.map fun _ => .released id, (s.release id).2)
  | .refund id => ((s.refund id).1.map .refunded, (s.refund id).2)

/-- The seat of the show is in somebody's hands. -/
def Holds (s : Store) (showId seatId : Int64) : Prop :=
  ∃ k t, s.tickets.get? k = some t ∧ t.eventShowId = showId ∧ t.seatId = seatId

end Store

/-- **What a deed takes a store to**, and what the store was like before. -/
inductive Does (s : Store) : Deed → Store → Prop where
  | reserved {showId : Int64} {seats : List Int64} (some_seat : seats ≠ [])
      (known : s.shows.contains showId = true) (free : ∀ seat ∈ seats, ¬ s.Holds showId seat) :
      Does s (.reserved (s.addTickets showId seats).1) (s.addTickets showId seats).2
  | purchased {ids : List Int64} {total : Float} (some_id : ids ≠ []) (nodup : ids.Nodup)
      (bill : s.bill 0.0 ids = .ok total) :
      Does s (.purchased ⟨s.nextInvoiceId, .purchase, ids, total⟩)
        { s with tickets := Store.purchased s.tickets ids, nextInvoiceId := s.nextInvoiceId + 1 }
  | released {id : Int64} {t : Ticket} (found : s.tickets.get? id = some t)
      (state : t.state = .reserved) :
      Does s (.released id) { s with tickets := s.tickets.erase id }
  | refunded {id : Int64} {t : Ticket} (found : s.tickets.get? id = some t)
      (state : t.state = .purchased) :
      Does s (.refunded ⟨s.nextInvoiceId, .cancellation, [id], s.priceOf t⟩)
        { s with tickets := s.tickets.erase id, nextInvoiceId := s.nextInvoiceId + 1 }

/-! ## 2. The four sales -/

namespace Store

/-- A seat is taken exactly if somebody holds it. -/
theorem hasTaken_iff (s : Store) (r : SeatRequest) :
    s.hasTaken r = true ↔ ∃ seat ∈ r.seatIds, s.Holds r.eventShowId seat := by
  unfold hasTaken
  simp only [List.any_eq_true, Table.mem_values_iff, Bool.and_eq_true, beq_iff_eq,
    List.contains_iff_mem]
  constructor
  · rintro ⟨t, ⟨k, hk⟩, hshow, hseat⟩
    exact ⟨t.seatId, hseat, k, t, hk, hshow, rfl⟩
  · rintro ⟨seat, hseat, k, t, hk, hshow, rfl⟩
    exact ⟨t, ⟨k, hk⟩, hshow, hseat⟩

/-- **A reservation is refused**, or it writes a ticket for each seat of a known show; nobody holds any of
    them. -/
theorem reserve_cases (s : Store) (r : SeatRequest) :
    (∃ why, s.reserve r = (.error why, s)) ∨
    s.reserve r = (.ok (s.addTickets r.eventShowId r.seatIds).1,
        (s.addTickets r.eventShowId r.seatIds).2) ∧
      r.seatIds ≠ [] ∧ s.shows.contains r.eventShowId = true ∧
      ∀ seat ∈ r.seatIds, ¬ s.Holds r.eventShowId seat := by
  unfold reserve
  split
  · exact Or.inl ⟨_, rfl⟩
  · next hne =>
    split
    · exact Or.inl ⟨_, rfl⟩
    · next hshow =>
      split
      · exact Or.inl ⟨_, rfl⟩
      · next hfree =>
        refine Or.inr ⟨rfl, ?_, ?_, fun seat hseat hheld => ?_⟩
        · exact fun e => hne (List.isEmpty_iff.mpr e)
        · simpa using hshow
        · exact hfree ((hasTaken_iff s r).mpr ⟨seat, hseat, hheld⟩)

/-- **An order is refused**, or it pays the bill of its tickets, each listed once. -/
theorem order_cases {μ : Type} (s : Store) (o : Order μ) :
    (∃ why, s.order o = (.error why, s)) ∨
    ∃ total, s.order o = (.ok ⟨s.nextInvoiceId, .purchase, o.ticketIds, total⟩,
        { s with tickets := purchased s.tickets o.ticketIds, nextInvoiceId := s.nextInvoiceId + 1 }) ∧
      o.ticketIds ≠ [] ∧ o.ticketIds.Nodup ∧ s.bill 0.0 o.ticketIds = .ok total := by
  unfold order
  split
  · exact Or.inl ⟨_, rfl⟩
  · next hne =>
    split
    · exact Or.inl ⟨_, rfl⟩
    · next hdistinct =>
      split
      · exact Or.inl ⟨_, rfl⟩
      · next total hbill =>
        refine Or.inr ⟨total, rfl, ?_, ?_, hbill⟩
        · intro e
          simp [e] at hne
        · exact (allDistinct_iff_nodup o.ticketIds).mp (by simpa using hdistinct)

/-- **A release is refused**, or it takes a reserved ticket back. -/
theorem release_cases (s : Store) (id : Int64) :
    (∃ why, s.release id = (.error why, s)) ∨
    ∃ t, s.release id = (.ok (), { s with tickets := s.tickets.erase id }) ∧
      s.tickets.get? id = some t ∧ t.state = .reserved := by
  unfold release
  split
  · exact Or.inl ⟨_, rfl⟩
  · next t found =>
    split
    · exact Or.inl ⟨_, rfl⟩
    · next state => exact Or.inr ⟨t, rfl, found, state⟩

/-- **A refund is refused**, or it takes a purchased ticket back for its price. -/
theorem refund_cases (s : Store) (id : Int64) :
    (∃ why, s.refund id = (.error why, s)) ∨
    ∃ t, s.refund id = (.ok ⟨s.nextInvoiceId, .cancellation, [id], s.priceOf t⟩,
        { s with tickets := s.tickets.erase id, nextInvoiceId := s.nextInvoiceId + 1 }) ∧
      s.tickets.get? id = some t ∧ t.state = .purchased := by
  unfold refund
  split
  · exact Or.inl ⟨_, rfl⟩
  · next t found =>
    split
    · exact Or.inl ⟨_, rfl⟩
    · next state => exact Or.inr ⟨t, rfl, found, state⟩

/-- **A sale is refused and changes nothing, or it does something.** -/
theorem sell_cases (s : Store) (c : Sale) :
    (∃ why, s.sell c = (.error why, s)) ∨ ∃ d s', s.sell c = (.ok d, s') ∧ Does s d s' := by
  cases c with
  | reserve r =>
    rcases s.reserve_cases r with ⟨why, h⟩ | ⟨h, nonempty, known, free⟩
    · exact Or.inl ⟨why, by simp only [sell, h]; rfl⟩
    · exact Or.inr ⟨_, _, by simp only [sell, h]; rfl, .reserved nonempty known free⟩
  | order o =>
    rcases s.order_cases o with ⟨why, h⟩ | ⟨total, h, nonempty, nodup, bill⟩
    · exact Or.inl ⟨why, by simp only [sell, h]; rfl⟩
    · exact Or.inr ⟨_, _, by simp only [sell, h]; rfl, .purchased nonempty nodup bill⟩
  | release id =>
    rcases s.release_cases id with ⟨why, h⟩ | ⟨t, h, found, state⟩
    · exact Or.inl ⟨why, by simp only [sell, h]; rfl⟩
    · exact Or.inr ⟨_, _, by simp only [sell, h]; rfl, .released found state⟩
  | refund id =>
    rcases s.refund_cases id with ⟨why, h⟩ | ⟨t, h, found, state⟩
    · exact Or.inl ⟨why, by simp only [sell, h]; rfl⟩
    · exact Or.inr ⟨_, _, by simp only [sell, h]; rfl, .refunded found state⟩

end Store

/-! ## 3. What a granted sale tells -/

theorem exists_of_map_eq_ok {ε α β : Type} {x : Except ε α} {f : α → β} {b : β}
    (h : x.map f = .ok b) : ∃ a, x = .ok a ∧ f a = b := by
  cases x with
  | error e => cases h
  | ok a => exact ⟨a, rfl, Except.ok.inj h⟩

namespace Store

/-- A reservation that is granted has written the tickets that it hands out. -/
theorem written_of_reserve {s : Store} {r : SeatRequest} {ts : List Ticket} (h : (s.reserve r).1 = .ok ts) :
    ts = (s.addTickets r.eventShowId r.seatIds).1 ∧
      (s.reserve r).2 = (s.addTickets r.eventShowId r.seatIds).2 ∧
      ∀ seat ∈ r.seatIds, ¬ s.Holds r.eventShowId seat := by
  rcases s.reserve_cases r with ⟨why, refused⟩ | ⟨granted, _, _, free⟩
  · rw [refused] at h
    cases h
  · rw [granted] at h
    cases h
    exact ⟨rfl, congrArg Prod.snd granted, free⟩

/-- The invoice of an order lists its tickets, and its total is their bill. -/
theorem bill_of_order {μ : Type} {s : Store} {o : Order μ} {i : Invoice} (h : (s.order o).1 = .ok i) :
    i.ticketIds = o.ticketIds ∧ s.bill 0.0 o.ticketIds = .ok i.totalPrice := by
  rcases s.order_cases o with ⟨why, refused⟩ | ⟨total, granted, _, _, bill⟩
  · rw [refused] at h
    cases h
  · rw [granted] at h
    cases h
    exact ⟨rfl, bill⟩

/-- The invoice of a refund lists its ticket, and its total is the price of that ticket. -/
theorem price_of_refund {s : Store} {id : Int64} {i : Invoice} (h : (s.refund id).1 = .ok i) :
    i.kind = .cancellation ∧ i.ticketIds = [id] ∧
      ∃ t, s.tickets.get? id = some t ∧ i.totalPrice = s.priceOf t := by
  rcases s.refund_cases id with ⟨why, refused⟩ | ⟨t, granted, found, _⟩
  · rw [refused] at h
    cases h
  · rw [granted] at h
    cases h
    exact ⟨rfl, rfl, t, found, rfl⟩

/-! ## 4. What every deed leaves alone -/

@[simp] theorem addTickets_nil (s : Store) (showId : Int64) : s.addTickets showId [] = ([], s) := rfl

theorem addTickets_cons (s : Store) (showId seat : Int64) (seats : List Int64) :
    s.addTickets showId (seat :: seats) =
      ((s.addTicket showId seat).1 :: ((s.addTicket showId seat).2.addTickets showId seats).1,
       ((s.addTicket showId seat).2.addTickets showId seats).2) := rfl

/-- One ticket is written for each seat. -/
theorem length_addTickets (showId : Int64) : ∀ (seats : List Int64) (s : Store),
    (s.addTickets showId seats).1.length = seats.length
  | [], _ => rfl
  | seat :: seats, s => by
    rw [addTickets_cons, List.length_cons, length_addTickets showId seats, List.length_cons]

/-- Writing tickets touches neither locations nor shows nor the invoice counter. -/
theorem addTickets_frame (showId : Int64) (seats : List Int64) : ∀ s : Store,
    (s.addTickets showId seats).2.locations = s.locations ∧
    (s.addTickets showId seats).2.shows = s.shows ∧
    (s.addTickets showId seats).2.nextInvoiceId = s.nextInvoiceId := by
  induction seats with
  | nil => exact fun s => ⟨rfl, rfl, rfl⟩
  | cons seat seats ih =>
    intro s
    rw [addTickets_cons]
    exact ih (s.addTicket showId seat).2

end Store

/-! ## 5. What an order asks of its tickets, and does to them -/

namespace Store

/-- The price of a ticket depends on its show only. -/
theorem priceOf_congr {s s' : Store} {t t' : Ticket} (shows : s'.shows = s.shows)
    (same : t'.eventShowId = t.eventShowId) : s'.priceOf t' = s.priceOf t := by
  rw [priceOf, priceOf, shows, same]

/-- A bill is only written for tickets that are all reserved. -/
theorem reserved_of_bill {s : Store} {total : Float} : ∀ {ids : List Int64} {sum : Float},
    s.bill sum ids = .ok total → ∀ id ∈ ids, ∃ t, s.tickets.get? id = some t ∧ t.state = .reserved
  | [], _, _, _, hid => by cases hid
  | id :: ids, sum, h, k, hk => by
    unfold bill at h
    split at h
    · cases h
    · next t found =>
      split at h
      · next state =>
        rcases List.mem_cons.mp hk with rfl | hk
        · exact ⟨t, found, state⟩
        · exact reserved_of_bill h k hk
      · cases h

/-- The listed tickets are purchased, all others stay as they are. -/
theorem get?_purchased (id : Int64) : ∀ (ids : List Int64) (tickets : Table Ticket),
    (purchased tickets ids).get? id =
      if id ∈ ids then (tickets.get? id).map ({ · with state := .purchased }) else tickets.get? id
  | [], _ => rfl
  | k :: ids, tickets => by
    have ih := get?_purchased id ids (tickets.modify k ({ · with state := .purchased }))
    rw [purchased, List.foldl_cons]
    refine ih.trans ?_
    by_cases hk : id = k
    · subst hk
      rw [Table.get?_modify_self]
      cases tickets.get? id <;> simp
    · rw [Table.get?_modify_of_ne _ hk]
      simp [hk]

/-- An order with a ticket that is not reserved is refused. -/
theorem order_refused {μ : Type} (s : Store) {o : Order μ} {id : Int64} (hid : id ∈ o.ticketIds)
    (h : ∀ t, s.tickets.get? id = some t → t.state ≠ .reserved) : ∃ why, s.order o = (.error why, s) := by
  rcases s.order_cases o with refused | ⟨total, _, _, _, bill⟩
  · exact refused
  · obtain ⟨t, found, state⟩ := reserved_of_bill bill id hid
    exact absurd state (h t found)

/-- A reservation of a seat that somebody holds is refused. -/
theorem reserve_refused (s : Store) {r : SeatRequest} {seat : Int64} (hseat : seat ∈ r.seatIds)
    (held : s.Holds r.eventShowId seat) : ∃ why, s.reserve r = (.error why, s) := by
  rcases s.reserve_cases r with refused | ⟨_, _, _, free⟩
  · exact refused
  · exact absurd held (free seat hseat)

end Store

/-! ## 6. No deed touches locations or shows -/

/-- No deed touches the locations. -/
theorem Does.locations_eq {s s' : Store} {d : Deed} (h : Does s d s') :
    s'.locations = s.locations := by
  cases h with
  | reserved => exact (Store.addTickets_frame _ _ s).1
  | purchased | released | refunded => rfl

/-- No deed touches the shows. -/
theorem Does.shows_eq {s s' : Store} {d : Deed} (h : Does s d s') : s'.shows = s.shows := by
  cases h with
  | reserved => exact (Store.addTickets_frame _ _ s).2.1
  | purchased | released | refunded => rfl

end BoxOffice
