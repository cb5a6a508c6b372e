import BoxOffice.Proofs.Holding
import BoxOffice.Proofs.LifeCycle
import BoxOffice.Proofs.Payment
import BoxOffice.Proofs.Refund

/-!
# A request that was granted is not granted again

Whoever gets no reply may send a request again. If it was granted the first time, it is refused the second time
and does nothing, unless one of its tickets was given back in between: a seat is held as long as its ticket is
there, a ticket that is paid for cannot be paid for again, and one that is given back never comes back.

* `Store.lives`, `Store.InOrder.tracks` -- the lives of the tickets that a store in order holds, and that it is on
  track with them;
* `Tracks.purchased_of_mem`, `Tracks.absent_of_mem` -- what the life of a ticket says of the store;
* `Deed.retryStatus` -- the status with which the request of a deed is refused afterwards;
* `retry_refused` -- so a request that was granted is refused afterwards, and nothing is done twice.
-/

namespace BoxOffice

/-! ## 1. Lives in a store -/

/-- **The life of a ticket, as far as a store tells**: a ticket that is not there counts as not begun. -/
def Store.lives (s : Store) (id : Int64) : List Stage :=
  match s.tickets.get? id with
  | none => []
  | some t => lifeOf t.state

/-- **A store in order is on track with the lives that it tells.** -/
theorem Store.InOrder.tracks {s : Store} (h : s.InOrder) : Tracks s.lives s := by
  constructor
  case own => exact h.own
  case stored =>
    intro id t found
    rw [Store.lives, found]
  case absent =>
    intro id missing
    rw [Store.lives, missing]
    exact List.mem_cons_self
  case issued =>
    intro id lived
    cases found : s.tickets.get? id with
    | none =>
      rw [Store.lives, found] at lived
      exact absurd rfl lived
    | some t => exact Int64.lt_iff_toInt_lt.mp (h.below id t found)

namespace Tracks

variable {L : Int64 → List Stage} {s : Store} {id : Int64}

/-- A stored ticket that was paid for is purchased. -/
theorem purchased_of_mem (h : Tracks L s) {t : Ticket} (found : s.tickets.get? id = some t)
    (paid : .purchase ∈ L id) : t.state = .purchased := by
  rw [h.stored id t found] at paid
  cases state : t.state with
  | purchased => rfl
  | reserved =>
    rw [state] at paid
    exact absurd paid (by decide)

/-- A ticket that was given back is not there. -/
theorem absent_of_mem (h : Tracks L s) (back : .release ∈ L id ∨ .refund ∈ L id) :
    s.tickets.get? id = none := by
  cases found : s.tickets.get? id with
  | none => rfl
  | some t =>
    exfalso
    rw [h.stored id t found] at back
    revert back
    cases t.state <;> decide

/-- Nothing is done to a ticket twice. -/
theorem count_le_one (h : Tracks L s) (id : Int64) (st : Stage) : (L id).count st ≤ 1 := by
  rcases h.life_cases id with e | e | e | e | e <;> rw [e] <;> cases st <;> decide

end Tracks

/-! ## 2. A sale that was granted -/

/-- **The status with which the request of a deed is refused afterwards**, as long as what it did stands. -/
def Deed.retryStatus : Deed → Nat
  | .reserved _ | .purchased _ => 409
  | .released _ | .refunded _ => 404

namespace Server

section Granted

variable {s s' : Store}

/-- **A release or a refund of a ticket that is not there** is answered with 404. -/
theorem answerSale_of_absent {c : Sale} {id : Int64} (back : c = .release id ∨ c = .refund id)
    (absent : s.tickets.get? id = none) : answerSale s c = (.bare 404, s) := by
  rcases back with rfl | rfl
  · rw [answerSale, Store.sell, Store.release, absent]
    rfl
  · rw [answerSale, Store.sell, Store.refund, absent]
    rfl

/-- **An order that was granted**, sent to a store in which its tickets are purchased, is answered with 409. -/
theorem answerSale_of_paid {o : Order String} {i : Invoice} (granted : (s.order o).1 = .ok i)
    (paid : ∀ id ∈ o.ticketIds, ∃ t, s'.tickets.get? id = some t ∧ t.state = .purchased) :
    answerSale s' (.order o) = (.bare 409, s') := by
  have complete : ¬ o.IsLacking := by
    intro lacking
    rw [s.order_of_lacking lacking] at granted
    cases granted
  cases first : s'.firstUnpayable o.ticketIds with
  | some id =>
    obtain ⟨t, found, _⟩ := paid id (List.mem_of_find?_eq_some first)
    exact answerSale_of_sold complete first found
  | none =>
    -- there is a ticket, and it would have to be reserved
    obtain ⟨id, mem⟩ := List.exists_mem_of_ne_nil o.ticketIds fun none => complete (Or.inl none)
    obtain ⟨t, found, state⟩ := paid id mem
    obtain ⟨t', found', state'⟩ := Store.firstUnpayable_eq_none_iff.mp first id mem
    rw [found'] at found
    cases found
    rw [state] at state'
    cases state'

end Granted

/-- **The seat of a ticket that a deed hands out is held from then on.** -/
theorem heldFrom_of_handed {s s' : Store} {d : Deed} (h : Does s d s') (inOrder : s.InOrder)
    (room : s.nextTicketId.toInt + d.tickets.length < 2 ^ 63) {t : Ticket} (handed : t ∈ d.tickets) :
    HeldFrom s' t := by
  have after := h.inOrder inOrder room
  have known := (h.free t handed).1
  rw [← h.shows_eq] at known
  cases h with
  | @reserved showId seats =>
    have low := Int64.le_toInt s.nextTicketId
    rw [Deed.tickets, Store.length_addTickets] at room
    exact heldFrom after (Store.get?_addTickets (by omega) handed) known
  | purchased | released | refunded => cases handed

/-! ## 3. Sending a request again -/

section Again

variable {s : Store} {r : Request} {d : Deed} (granted : deed? s r = some d) (rs : List Request)

include granted

/-- What it did to a ticket is part of the life of that ticket. -/
theorem mem_life_of_deed {id : Int64} (mem : id ∈ d.ids) : d.stage ∈ life id (deeds s (r :: rs)) := by
  rw [deeds_cons_of_deed granted]
  exact mem_life_iff.mpr ⟨d, List.mem_cons_self, mem, rfl⟩

variable (inOrder : s.InOrder) (room : s.nextTicketId.toInt + (handedOut (deeds s (r :: rs))).length < 2 ^ 63)

include inOrder room

/-- **The request is refused as long as its tickets are not given back.** -/
theorem answer_again (kept : ∀ id ∈ d.ids, id ∉ takenBack (deeds (answer s r).2 rs)) :
    answer (answers s (r :: rs)).2 r = (.bare d.retryStatus, (answers s (r :: rs)).2) := by
  have does := does_of_deed granted
  have did := did_answers s (r :: rs)
  have tracks := did.tracks_after inOrder.tracks room
  have lived := fun id (mem : id ∈ d.ids) =>
    List.mem_append_right (s.lives id) (mem_life_of_deed granted rs mem)
  obtain ⟨c, asked, sold⟩ := exists_sale_of_deed granted
  rw [answer_of_sale _ asked]
  cases c with
  | reserve q =>
    obtain ⟨first, later⟩ := @room_append s [r] rs room
    rw [deeds_cons_of_deed granted [], deeds, handedOut_singleton] at first
    obtain ⟨ts, given, rfl⟩ := exists_of_map_eq_ok sold
    obtain ⟨t, handed, shows, seat⟩ := Store.exists_handed given
    have held := heldFrom_of_handed does inOrder first handed
    have refused := held rs later (kept t.id (List.mem_map_of_mem handed)) r q asked shows.symm seat
    rwa [answer_of_sale _ asked] at refused
  | order o =>
    obtain ⟨i, given, rfl⟩ := exists_of_map_eq_ok sold
    obtain ⟨listed, bill⟩ := Store.bill_of_order given
    refine answerSale_of_paid given fun id mem => ?_
    obtain ⟨t, stored, _⟩ := Store.reserved_of_bill bill id mem
    rw [← listed] at mem
    have still : id ∉ takenBack (deeds s (r :: rs)) := by
      rw [deeds_cons_of_deed granted]
      exact kept id mem
    obtain ⟨state, found⟩ := did.keeps inOrder stored room still
    exact ⟨_, found, tracks.purchased_of_mem found (lived id mem)⟩
  | release id =>
    obtain ⟨_, _, rfl⟩ := exists_of_map_eq_ok sold
    exact answerSale_of_absent (Or.inl rfl) (tracks.absent_of_mem (Or.inl (lived id (List.mem_singleton_self id))))
  | refund id =>
    obtain ⟨i, given, rfl⟩ := exists_of_map_eq_ok sold
    have mem : id ∈ i.ticketIds := by
      rw [(Store.price_of_refund given).2.1]
      exact List.mem_singleton_self id
    exact answerSale_of_absent (Or.inr rfl) (tracks.absent_of_mem (Or.inr (lived id mem)))

end Again

/-- **A request that was granted is not granted again**, from any store in order on, as long as the numbers of
    tickets do not come round. Sent again after any run in which none of its tickets is given back, a reservation
    or an order is answered with 409, and a release or a refund with 404; the store stays as it is, and over the
    whole run nothing is done to any ticket twice. -/
theorem retry_refused {s : Store} (inOrder : s.InOrder) {r : Request} {d : Deed} (granted : deed? s r = some d)
    (rs : List Request) (room : s.nextTicketId.toInt + (handedOut (deeds s (r :: rs))).length < 2 ^ 63)
    (kept : ∀ id ∈ d.ids, id ∉ takenBack (deeds (answer s r).2 rs)) :
    answer (answers s (r :: rs)).2 r = (.bare d.retryStatus, (answers s (r :: rs)).2) ∧
    deed? (answers s (r :: rs)).2 r = none ∧
    ∀ id stage, (life id (deeds s (r :: rs ++ [r]))).count stage ≤ 1 := by
  have refused := answer_again granted rs inOrder room kept
  have nothing : deed? (answers s (r :: rs)).2 r = none := by
    rcases answer_cases (answers s (r :: rs)).2 r with ⟨none, _⟩ | ⟨d', _, _, reply⟩
    · exact none
    · have success := isSuccess_ofDeed d'
      rw [← reply, refused] at success
      cases d <;> cases success
  refine ⟨refused, nothing, fun id stage => ?_⟩
  have last : deeds (answers s (r :: rs)).2 [r] = [] := by
    rw [deeds, nothing]
    rfl
  have once := ((did_answers s (r :: rs)).tracks_after inOrder.tracks room).count_le_one id stage
  rw [List.count_append] at once
  rw [deeds_append, last, List.append_nil]
  omega

/-- Somebody tries to release the first of two tickets, and somebody else reserves another seat. -/
def tooLateToRelease : List Request :=
  [⟨"DELETE", "/api/v1/tickets/1", [], ""⟩,
   ⟨"POST", "/api/v1/tickets", [("content-type", "application/json")],
     r#"{"eventShowId":1,"seatIds":[6]}"#⟩]

/-- After that, the order with which the two tickets were paid for is refused if it is sent again. -/
theorem retry_refused_paidTogether :
    withTwoTickets.InOrder ∧
    deed? withTwoTickets paidTogether = some (.purchased ⟨1, .purchase, [2, 1], 74.9⟩) ∧
    withTwoTickets.nextTicketId.toInt
      + (handedOut (deeds withTwoTickets (paidTogether :: tooLateToRelease))).length < 2 ^ 63 ∧
    deeds (answer withTwoTickets paidTogether).2 tooLateToRelease = [.reserved [⟨3, 6, 1, .reserved⟩]] ∧
    (answer (answers withTwoTickets (paidTogether :: tooLateToRelease)).2 paidTogether).1 = .bare 409 := by
  have inOrder : withTwoTickets.InOrder := by decide +kernel
  have asked : paidTogether.sale? = some (.order ⟨[2, 1], "A", "B", "X"⟩) := by decide +kernel
  have granted : deed? withTwoTickets paidTogether = some (.purchased ⟨1, .purchase, [2, 1], 74.9⟩) := by
    rw [deed?, asked]
    decide +kernel
  have meanwhile : deeds (answer withTwoTickets paidTogether).2 tooLateToRelease =
      [.reserved [⟨3, 6, 1, .reserved⟩]] := by
    rw [answer_of_sale _ asked]
    decide +kernel
  have room : withTwoTickets.nextTicketId.toInt
      + (handedOut (deeds withTwoTickets (paidTogether :: tooLateToRelease))).length < 2 ^ 63 := by
    rw [deeds_cons_of_deed granted, meanwhile]
    decide +kernel
  have kept : ∀ id ∈ ([2, 1] : List Int64),
      id ∉ takenBack (deeds (answer withTwoTickets paidTogether).2 tooLateToRelease) := by
    rw [meanwhile]
    exact fun _ _ => List.not_mem_nil
  refine ⟨inOrder, granted, room, meanwhile, ?_⟩
  rw [(retry_refused inOrder granted tooLateToRelease room kept).1]
  rfl

end Server

end BoxOffice
