import BoxOffice.Proofs.Numbering

/-!
# The life of a ticket

A ticket is reserved, and then either released or purchased; a purchased one may be refunded. Nothing
else can happen to it, and its id never comes back. So what the store holds can be told from the
history: the reserved tickets are the ids reserved and neither released nor purchased, the purchased
ones those on an invoice of a purchase and on none of a cancellation.

* `life id ds` -- what a history did to the ticket with an id, in order;
* `Tracks L s` -- the invariant: the store `s` holds each ticket in the state in which its life `L id`
  left it, and ids from the next one on have not lived;
* `Tracks.step` -- what it takes to keep it; `Does.tracks`, `Did.tracks_after` -- every deed and every history
  keeps it, as long as the ids do not come round;
* `ticket_life_cycle` -- what follows for every run.
-/

namespace BoxOffice

/-! ## 1. Lives -/

/-- What can happen to a ticket. -/
inductive Stage where
  | reserve
  | release
  | purchase
  | refund
  deriving DecidableEq, Repr

namespace Deed

/-- What a deed does to tickets. -/
def stage : Deed → Stage
  | .reserved _ => .reserve
  | .purchased _ => .purchase
  | .released _ => .release
  | .refunded _ => .refund

/-- The ids of the tickets to which a deed does it. -/
def ids : Deed → List Int64
  | .reserved ts => ts.map (·.id)
  | .purchased i => i.ticketIds
  | .released id => [id]
  | .refunded i => i.ticketIds

/-- The invoices of a deed are of the kind that its name says. -/
def Proper : Deed → Prop
  | .purchased i => i.kind = .purchase
  | .refunded i => i.kind = .cancellation
  | .reserved _ | .released _ => True

end Deed

/-- What a deed does to the ticket with an id, once for each time that it names it. -/
def stages (id : Int64) (d : Deed) : List Stage := .replicate (d.ids.count id) d.stage

/-- **The life of a ticket** over a history. -/
def life (id : Int64) (ds : List Deed) : List Stage := ds.flatMap (stages id)

@[simp] theorem life_nil (id : Int64) : life id [] = [] := rfl

theorem life_concat (id : Int64) (ds : List Deed) (d : Deed) :
    life id (ds ++ [d]) = life id ds ++ stages id d := by
  simp [life]

/-- Something is in a life if a deed did it to the ticket. -/
theorem mem_life_iff {id : Int64} {ds : List Deed} {st : Stage} :
    st ∈ life id ds ↔ ∃ d ∈ ds, id ∈ d.ids ∧ d.stage = st := by
  simp only [life, stages, List.mem_flatMap, List.mem_replicate, ne_eq, List.count_eq_zero,
    Classical.not_not]
  constructor
  · rintro ⟨d, hd, hid, rfl⟩
    exact ⟨d, hd, hid, rfl⟩
  · rintro ⟨d, hd, hid, rfl⟩
    exact ⟨d, hd, hid, rfl⟩

/-! ## 2. The invariant -/

/-- The life of a stored ticket. -/
def lifeOf : TicketState → List Stage
  | .reserved => [.reserve]
  | .purchased => [.reserve, .purchase]

/-- The lives of tickets that are not stored: not begun, or ended. -/
def notStored : List (List Stage) := [[], [.reserve, .release], [.reserve, .purchase, .refund]]

/-- **The store holds the tickets as their lives left them.** -/
structure Tracks (L : Int64 → List Stage) (s : Store) : Prop where
  own : ∀ id t, s.tickets.get? id = some t → t.id = id
  stored : ∀ id t, s.tickets.get? id = some t → L id = lifeOf t.state
  absent : ∀ id, s.tickets.get? id = none → L id ∈ notStored
  issued : ∀ id, L id ≠ [] → id.toInt < s.nextTicketId.toInt

theorem tracks_seeded : Tracks (fun _ => []) .seeded where
  own _ _ h := by cases h
  stored _ _ h := by cases h
  absent _ _ := List.mem_cons_self
  issued _ h := absurd rfl h

namespace Tracks

variable {L : Int64 → List Stage} {s s' : Store}

/-- An id from the next one on has not lived. -/
theorem not_lived (h : Tracks L s) {id : Int64} (hid : s.nextTicketId.toInt ≤ id.toInt) :
    L id = [] :=
  Classical.byContradiction fun lived => absurd (h.issued id lived) (by omega)

/-- A stored ticket has lived. -/
theorem below (h : Tracks L s) {id : Int64} {t : Ticket} (found : s.tickets.get? id = some t) :
    id.toInt < s.nextTicketId.toInt := by
  refine h.issued id ?_
  rw [h.stored id t found]
  cases t.state <;> exact List.cons_ne_nil _ _

/-- **The next part of some lives**: whatever is done to the tickets listed, once each, the invariant is
    kept if these are stored, or not, as their lives now say, and all others are left alone. -/
theorem step (h : Tracks L s) {ids : List Int64} (once : ids.Nodup) {st : Stage}
    (kept : ∀ k, k ∉ ids → s'.tickets.get? k = s.tickets.get? k)
    (stored : ∀ k ∈ ids, ∀ t, s'.tickets.get? k = some t → t.id = k ∧ L k ++ [st] = lifeOf t.state)
    (absent : ∀ k ∈ ids, s'.tickets.get? k = none → L k ++ [st] ∈ notStored)
    (issued : ∀ k ∈ ids, k.toInt < s'.nextTicketId.toInt)
    (counter : s.nextTicketId.toInt ≤ s'.nextTicketId.toInt) :
    Tracks (fun k => L k ++ .replicate (ids.count k) st) s' := by
  have here : ∀ k ∈ ids, L k ++ .replicate (ids.count k) st = L k ++ [st] := by
    intro k hk
    rw [List.Nodup.count once, if_pos hk]
    rfl
  have there : ∀ k, k ∉ ids → L k ++ .replicate (ids.count k) st = L k := by
    intro k hk
    rw [List.count_eq_zero.mpr hk, List.replicate_zero, List.append_nil]
  refine ⟨fun k t ht => ?_, fun k t ht => ?_, fun k ht => ?_, fun k hk => ?_⟩
  · by_cases e : k ∈ ids
    · exact (stored k e t ht).1
    · rw [kept k e] at ht
      exact h.own k t ht
  · by_cases e : k ∈ ids
    · rw [here k e]
      exact (stored k e t ht).2
    · rw [kept k e] at ht
      rw [there k e]
      exact h.stored k t ht
  · by_cases e : k ∈ ids
    · rw [here k e]
      exact absent k e ht
    · rw [kept k e] at ht
      rw [there k e]
      exact h.absent k ht
  · by_cases e : k ∈ ids
    · exact issued k e
    · rw [there k e] at hk
      exact Int.lt_of_lt_of_le (h.issued k hk) counter

end Tracks

/-! ## 3. Every deed keeps the invariant -/

section Keep

variable {L : Int64 → List Stage} {s s' : Store} {d : Deed}

/-- Writing tickets begins the life of each of them. -/
theorem Tracks.reserved (h : Tracks L s) (showId : Int64) (seats : List Int64)
    (room : s.nextTicketId.toInt + seats.length < 2 ^ 63) :
    Tracks (fun k => L k ++ .replicate (((s.addTickets showId seats).1.map (·.id)).count k) .reserve)
      (s.addTickets showId seats).2 := by
  have numbers := Store.consecutive_addTickets showId seats s
  have low := Int64.le_toInt s.nextTicketId
  rw [← Store.length_addTickets showId seats s, ← List.length_map (·.id)] at room
  have begins : ∀ k ∈ (s.addTickets showId seats).1.map (·.id), L k = [] := by
    intro k hk
    exact h.not_lived (Int64.le_iff_toInt_le.mp (numbers.bounds room k hk).1)
  refine h.step (numbers.nodup (by omega)) (fun k => Store.get?_addTickets_of_not_mem) ?_ ?_ ?_ ?_
  · intro k hk t ht
    obtain ⟨t', written, own, found⟩ := Store.get?_addTickets_of_mem hk
    rw [found] at ht
    cases ht
    rw [begins k hk, (Store.state_addTickets showId seats s t written).2]
    exact ⟨own, rfl⟩
  · intro k hk none
    obtain ⟨t', _, _, found⟩ := Store.get?_addTickets_of_mem hk
    rw [found] at none
    cases none
  · intro k hk
    exact Int64.lt_iff_toInt_lt.mp (numbers.bounds room k hk).2
  · rw [numbers.toInt_eq room]
    omega

/-- Taking a ticket back in its last state ends its life. -/
theorem Tracks.erase (h : Tracks L s) {id : Int64} {t : Ticket} (found : s.tickets.get? id = some t)
    {st : Stage} (ends : lifeOf t.state ++ [st] ∈ notStored) (next : Int64) :
    Tracks (fun k => L k ++ .replicate ([id].count k) st)
      { s with tickets := s.tickets.erase id, nextInvoiceId := next } := by
  refine h.step (List.nodup_singleton id) (fun k hk => ?_) ?_ ?_ ?_ (Int.le_refl _)
  · exact Table.get?_erase_of_ne _ fun e => hk (List.mem_singleton.mpr e)
  · intro k hk t' ht
    cases List.mem_singleton.mp hk
    rw [Table.get?_erase_self] at ht
    cases ht
  · intro k hk _
    cases List.mem_singleton.mp hk
    rw [h.stored id t found]
    exact ends
  · intro k hk
    cases List.mem_singleton.mp hk
    exact h.below found

/-- Paying for reserved tickets is the next part of their lives. -/
theorem Tracks.purchased (h : Tracks L s) {ids : List Int64} (nodup : ids.Nodup)
    (state : ∀ id ∈ ids, ∃ t, s.tickets.get? id = some t ∧ t.state = .reserved) (next : Int64) :
    Tracks (fun k => L k ++ .replicate (ids.count k) .purchase)
      { s with tickets := Store.purchased s.tickets ids, nextInvoiceId := next } := by
  have listed : ∀ k ∈ ids, ∃ t, s.tickets.get? k = some t ∧ L k = [.reserve] ∧
      (Store.purchased s.tickets ids).get? k = some { t with state := .purchased } := by
    intro k hk
    obtain ⟨t, found, reserved⟩ := state k hk
    refine ⟨t, found, ?_, ?_⟩
    · rw [h.stored k t found, reserved]
      rfl
    · rw [Store.get?_purchased, if_pos hk, found]
      rfl
  refine h.step nodup (fun k hk => ?_) ?_ ?_ ?_ (Int.le_refl _)
  · exact (Store.get?_purchased k ids s.tickets).trans (if_neg hk)
  · intro k hk t ht
    obtain ⟨t₀, found, lived, now⟩ := listed k hk
    rw [now] at ht
    cases ht
    rw [lived]
    exact ⟨h.own k t₀ found, rfl⟩
  · intro k hk none
    obtain ⟨t₀, _, _, now⟩ := listed k hk
    rw [now] at none
    cases none
  · intro k hk
    obtain ⟨t₀, found, _, _⟩ := listed k hk
    exact h.below found

/-- **Every deed keeps the store on track**, as long as the ids do not come round. -/
theorem Does.tracks (h : Does s d s') (before : Tracks L s)
    (room : s.nextTicketId.toInt + d.tickets.length < 2 ^ 63) :
    Tracks (fun id => L id ++ stages id d) s' := by
  cases h with
  | @reserved showId seats =>
    rw [Deed.tickets, Store.length_addTickets] at room
    exact before.reserved showId seats room
  | purchased _ nodup bill => exact before.purchased nodup (Store.reserved_of_bill bill) _
  | released found state =>
    exact before.erase found (by rw [state]; simp [lifeOf, notStored, Deed.stage]) _
  | refunded found state =>
    exact before.erase found (by rw [state]; simp [lifeOf, notStored, Deed.stage]) _

/-- The invoices of a deed are of its kind. -/
theorem Does.proper (h : Does s d s') : d.Proper := by
  cases h with
  | reserved | released => trivial
  | purchased | refunded => rfl

end Keep

/-! ## 4. Histories -/

/-- The invoices of a history are of the kinds that its deeds say. -/
theorem Did.proper {s s' : Store} {ds : List Deed} (h : Did s ds s') : ∀ d ∈ ds, d.Proper := by
  induction h with
  | nothing => exact fun d hd => by cases hd
  | more _ last ih =>
    intro d hd
    rcases List.mem_append.mp hd with hd | hd
    · exact ih d hd
    · cases List.mem_singleton.mp hd
      exact last.proper

/-- **A history keeps the store on track**: it goes on with the lives that it finds, as long as the ids do not
    come round. -/
theorem Did.tracks_after {L : Int64 → List Stage} {s s' : Store} {ds : List Deed} (h : Did s ds s')
    (before : Tracks L s) (room : s.nextTicketId.toInt + (handedOut ds).length < 2 ^ 63) :
    Tracks (fun id => L id ++ life id ds) s' := by
  induction h with
  | nothing => simpa only [life_nil, List.append_nil] using before
  | @more ds s₁ s₂ d earlier last ih =>
    rw [handedOut_append, handedOut_singleton, List.length_append] at room
    have next := (earlier.numbered (by omega)).1
    have after := last.tracks (ih (by omega)) (by rw [next]; omega)
    simpa only [life_concat, List.append_assoc] using after

/-- From the seeded store it begins all lives itself. -/
theorem Did.tracks {s : Store} {ds : List Deed} (h : Did .seeded ds s)
    (small : (handedOut ds).length < 2 ^ 63 - 1) : Tracks (life · ds) s := by
  have first : Store.seeded.nextTicketId.toInt = 1 := rfl
  exact h.tracks_after tracks_seeded (by rw [first]; omega)

/-! ## 5. What a life tells of the invoices -/

/-- What happens to the tickets on an invoice. -/
def InvoiceKind.stage : InvoiceKind → Stage
  | .purchase => .purchase
  | .cancellation => .refund

/-- The invoices of a kind that list a ticket. -/
def listing (kind : InvoiceKind) (id : Int64) (is : List Invoice) : List Invoice :=
  is.filter fun i => i.kind == kind && i.ticketIds.contains id

theorem listing_append (kind : InvoiceKind) (id : Int64) (is js : List Invoice) :
    listing kind id (is ++ js) = listing kind id is ++ listing kind id js :=
  List.filter_append _ _

/-- An invoice lists a ticket exactly if the deed that wrote it did its part to the ticket. -/
theorem listing_invoices (kind : InvoiceKind) (id : Int64) {d : Deed} (hd : d.Proper) :
    (listing kind id d.invoices).length ≤ (stages id d).count kind.stage ∧
    (listing kind id d.invoices = [] ↔ kind.stage ∉ stages id d) := by
  cases d with
  | reserved ts | released k =>
    cases kind <;> simp [Deed.invoices, listing, stages, Deed.stage, InvoiceKind.stage]
  | purchased i | refunded i =>
    have hkind : i.kind = _ := hd
    by_cases hid : id ∈ i.ticketIds
    · have listed : i.ticketIds.count id ≠ 0 := fun none => List.count_eq_zero.mp none hid
      cases kind <;>
        simp [Deed.invoices, listing, stages, Deed.stage, Deed.ids, InvoiceKind.stage, hkind, hid,
          Nat.one_le_iff_ne_zero, listed]
    · have unlisted := List.count_eq_zero.mpr hid
      cases kind <;>
        simp [Deed.invoices, listing, stages, Deed.stage, Deed.ids, InvoiceKind.stage, hkind, hid,
          unlisted]

/-- So the invoices of a history that list a ticket can be told from its life. -/
theorem listing_invoiced (kind : InvoiceKind) (id : Int64) : ∀ {ds : List Deed},
    (∀ d ∈ ds, d.Proper) →
    (listing kind id (invoiced ds)).length ≤ (life id ds).count kind.stage ∧
    (listing kind id (invoiced ds) = [] ↔ kind.stage ∉ life id ds)
  | [], _ => by simp [listing, life]
  | d :: ds, h => by
    obtain ⟨here, here_nil⟩ := listing_invoices kind id (h d List.mem_cons_self)
    obtain ⟨later, later_nil⟩ :=
      listing_invoiced kind id fun d' hd' => h d' (List.mem_cons_of_mem d hd')
    have hlife : life id (d :: ds) = stages id d ++ life id ds := rfl
    have hinvoiced : invoiced (d :: ds) = d.invoices ++ invoiced ds := rfl
    rw [hlife, hinvoiced, listing_append]
    refine ⟨?_, ?_⟩
    · rw [List.length_append, List.count_append]
      omega
    · rw [List.append_eq_nil_iff, here_nil, later_nil, List.mem_append, not_or]

/-- A ticket is handed out in the reservation with which its life begins. -/
theorem handedOut_iff {id : Int64} {ds : List Deed} :
    (∃ t ∈ handedOut ds, t.id = id) ↔ .reserve ∈ life id ds := by
  simp only [mem_life_iff, handedOut, List.mem_flatMap]
  constructor
  · rintro ⟨t, ⟨d, hd, ht⟩, rfl⟩
    refine ⟨d, hd, ?_⟩
    cases d with
    | reserved ts => exact ⟨List.mem_map_of_mem ht, rfl⟩
    | purchased | released | refunded => cases ht
  · rintro ⟨d, hd, hid, hst⟩
    cases d with
    | reserved ts =>
      obtain ⟨t, ht, rfl⟩ := List.mem_map.mp hid
      exact ⟨t, ⟨_, hd, ht⟩, rfl⟩
    | purchased | released | refunded => cases hst

/-- A ticket is given back in the release with which its life ends. -/
theorem released_iff {id : Int64} {ds : List Deed} : .released id ∈ ds ↔ .release ∈ life id ds := by
  rw [mem_life_iff]
  constructor
  · exact fun h => ⟨_, h, List.mem_singleton_self id, rfl⟩
  · rintro ⟨d, hd, hid, hst⟩
    cases d with
    | released k =>
      cases List.mem_singleton.mp hid
      exact hd
    | reserved | purchased | refunded => cases hst

/-! ## 6. Runs -/

/-- A ticket is stored in a state exactly if that is the state in which its life left it. -/
theorem Tracks.stored_iff {L : Int64 → List Stage} {s : Store} (h : Tracks L s) (id : Int64)
    (state : TicketState) :
    (∃ t ∈ s.tickets.values, t.id = id ∧ t.state = state) ↔ L id = lifeOf state := by
  constructor
  · rintro ⟨t, ht, rfl, rfl⟩
    obtain ⟨k, found⟩ := (Table.mem_values_iff _ _).mp ht
    rw [h.own k t found]
    exact h.stored k t found
  · intro hL
    cases found : s.tickets.get? id with
    | none =>
      have ended := h.absent id found
      rw [hL] at ended
      exact absurd ended (by cases state <;> decide)
    | some t =>
      refine ⟨t, (Table.mem_values_iff _ _).mpr ⟨id, found⟩, h.own id t found, ?_⟩
      have lived := h.stored id t found
      rw [hL] at lived
      revert lived
      cases state <;> cases t.state <;> decide

/-- There are five lives. -/
theorem Tracks.life_cases {L : Int64 → List Stage} {s : Store} (h : Tracks L s) (id : Int64) :
    L id = [] ∨ L id = [.reserve] ∨ L id = [.reserve, .release] ∨ L id = [.reserve, .purchase] ∨
      L id = [.reserve, .purchase, .refund] := by
  cases found : s.tickets.get? id with
  | none =>
    have ended := h.absent id found
    simp only [notStored, List.mem_cons, List.not_mem_nil, or_false] at ended
    rcases ended with e | e | e
    · exact Or.inl e
    · exact Or.inr (Or.inr (Or.inl e))
    · exact Or.inr (Or.inr (Or.inr (Or.inr e)))
  | some t =>
    have lived := h.stored id t found
    cases hstate : t.state with
    | reserved => exact Or.inr (Or.inl (by rw [lived, hstate]; rfl))
    | purchased => exact Or.inr (Or.inr (Or.inr (Or.inl (by rw [lived, hstate]; rfl))))

namespace Server

/-- **The life of a ticket, told from the history of any run**: it is reserved, and then released, or
    purchased and then refunded, each at most once. So it is on at most one invoice of each kind; the
    tickets on one of a purchase and on none of a cancellation are the purchased ones in the store,
    and those handed out and neither released nor purchased the reserved ones. -/
theorem ticket_life_cycle (rs : List Request)
    (small : (handedOut (deeds .seeded rs)).length < 2 ^ 63 - 1) (id : Int64) :
    (life id (deeds .seeded rs) <+: [.reserve, .release] ∨
      life id (deeds .seeded rs) <+: [.reserve, .purchase, .refund]) ∧
    (∀ kind, (listing kind id (invoiced (deeds .seeded rs))).length ≤ 1) ∧
    (listing .purchase id (invoiced (deeds .seeded rs)) ≠ [] ∧
        listing .cancellation id (invoiced (deeds .seeded rs)) = [] ↔
      ∃ t ∈ (answers .seeded rs).2.tickets.values, t.id = id ∧ t.state = .purchased) ∧
    ((∃ t ∈ handedOut (deeds .seeded rs), t.id = id) ∧ .released id ∉ deeds .seeded rs ∧
        listing .purchase id (invoiced (deeds .seeded rs)) = [] ↔
      ∃ t ∈ (answers .seeded rs).2.tickets.values, t.id = id ∧ t.state = .reserved) := by
  have did := did_answers .seeded rs
  have tracks := did.tracks small
  have single := fun kind => (listing_invoiced kind id did.proper).1
  have listed := fun kind => (listing_invoiced kind id did.proper).2
  have lives := tracks.life_cases id
  rw [tracks.stored_iff id, tracks.stored_iff id, handedOut_iff, released_iff, ne_eq, listed, listed]
  generalize life id (deeds .seeded rs) = l at lives single ⊢
  have once : ∀ st, l.count st ≤ 1 := by
    rcases lives with rfl | rfl | rfl | rfl | rfl <;> intro st <;> cases st <;> decide
  refine ⟨?_, fun kind => Nat.le_trans (single kind) (once kind.stage), ?_, ?_⟩
  · rcases lives with rfl | rfl | rfl | rfl | rfl <;> decide
  · rcases lives with rfl | rfl | rfl | rfl | rfl <;> decide
  · rcases lives with rfl | rfl | rfl | rfl | rfl <;> decide

/-- Two seats are reserved, the first is paid for and given back, the second released. -/
def soldAndReturned : List Request :=
  [⟨"POST", "/api/v1/tickets", [("content-type", "application/json")],
     r#"{"eventShowId":1,"seatIds":[5,6]}"#⟩,
   ⟨"POST", "/api/v1/orders", [("content-type", "application/json")],
     r#"{"ticketIds":[1],"billingName":"A","billingAddress":"B","paymentMethod":"X"}"#⟩,
   ⟨"PUT", "/api/v1/tickets/1/cancelation", [], ""⟩,
   ⟨"DELETE", "/api/v1/tickets/2", [], ""⟩]

/-- The first of these tickets has a whole life, and is on one invoice of each kind at most. -/
theorem ticket_life_cycle_soldAndReturned :
    (handedOut (deeds .seeded soldAndReturned)).length < 2 ^ 63 - 1 ∧
    life 1 (deeds .seeded soldAndReturned) = [.reserve, .purchase, .refund] ∧
    (∀ kind, (listing kind 1 (invoiced (deeds .seeded soldAndReturned))).length ≤ 1) := by
  have small : (handedOut (deeds .seeded soldAndReturned)).length < 2 ^ 63 - 1 := by decide +kernel
  exact ⟨small, by decide +kernel, (ticket_life_cycle soldAndReturned small 1).2.1⟩

end Server

end BoxOffice
