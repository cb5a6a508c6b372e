import BoxOffice.Proofs.Deed
import BoxOffice.Server.Answer

/-!
# A request is answered as a whole or not at all

A request is a sale if its path names one of four resources, its method is the one of that resource,
and its arguments can be read. The answer to a sale is what `Store.sell` makes of it, and all other
requests are answered without touching the store.

* `Request.sale?` -- the sale that a request asks for;
* `deed?` -- what a request did to the store that answered it;
* `answer_cases` -- a request leaves the store as it is, or it did a deed and the reply is the one of
  that deed, which tells of success;
* `answer_atomic` -- so a request without success changes nothing.
-/

namespace BoxOffice.Server

/-! ## 1. The sale that a request asks for -/

/-- The resource that a request names. -/
def Request.route? (r : Request) : Option Route := Route.ofPath? (Target.ofUri r.uri).path

/-- The sale that a request asks for on a route, if its arguments can be read. -/
def Request.saleOn? (r : Request) : Route → Option Sale
  | .orders => (r.jsonBody order).toOption.map .order
  | .tickets => (r.jsonBody seatRequest).toOption.map .reserve
  | .ticket id => (pathId id).toOption.map .release
  | .refund id => (pathId id).toOption.map .refund
  | .locations | .location _ | .occupancy => none

/-- **The sale that a request asks for.** -/
def Request.sale? (r : Request) : Option Sale :=
  match r.route? with
  | none => none
  | some route => if route.accepts r.method then r.saleOn? route else none

/-- The reply to a request that did a deed. -/
def Reply.ofDeed : Deed → Reply
  | .reserved ts => .json 201 (.list (ts.map ticketValue))
  | .purchased i => .json 201 (invoiceValue i)
  | .released _ => .bare 204
  | .refunded i => .json 200 (invoiceValue i)

/-- **The answer to a sale**: what the store makes of it, and the store after it. -/
def answerSale (s : Store) (c : Sale) : Reply × Store := (granted Reply.ofDeed (s.sell c).1, (s.sell c).2)

/-- What a request did to the store that answered it. -/
def deed? (s : Store) (r : Request) : Option Deed :=
  match r.sale? with
  | none => none
  | some c => (s.sell c).1.toOption

/-- The status tells of success. -/
def Reply.isSuccess (r : Reply) : Bool := decide (200 ≤ r.status) && decide (r.status < 300)

@[simp] theorem isSuccess_ofDeed (d : Deed) : (Reply.ofDeed d).isSuccess = true := by
  cases d <;> rfl

@[simp] theorem isSuccess_refusal (why : Refusal) :
    (Reply.bare (refusalStatus why)).isSuccess = false := by
  cases why <;> rfl

/-! ## 2. The answer to a sale -/

/-- A route with a sale has a method of its own, so its replies keep their bodies. -/
theorem ne_head_of_saleOn {r : Request} {route : Route} {c : Sale} (h : r.saleOn? route = some c)
    (ha : route.accepts r.method = true) : r.method = route.method ∧ r.method ≠ "HEAD" := by
  cases route with
  | locations | location | occupancy => cases h
  | orders | tickets | ticket | refund =>
    simp only [Route.accepts, Route.method, Bool.or_eq_true, Bool.and_eq_true, beq_iff_eq] at ha ⊢
    rcases ha with ha | ⟨_, ha⟩
    · exact ⟨ha, by rw [ha]; decide⟩
    · exact absurd ha (by decide)

theorem toOption_mapError {ε ε' α : Type} (f : ε → ε') (x : Except ε α) :
    (x.mapError f).toOption = x.toOption := by
  cases x <;> rfl

section Arguments

variable {α : Type} {s : Store} {sale : α → Sale} {run : α → Reply × Store}
  (hrun : ∀ a, run a = (granted Reply.ofDeed (s.sell (sale a)).1, (s.sell (sale a)).2))
  {arguments : Except Rejection α}

include hrun in
/-- Arguments that make a sale, run as that sale, are answered as that sale. -/
theorem withArguments_of_sale {c : Sale} (h : arguments.toOption.map sale = some c) :
    withArguments s arguments run = (granted Reply.ofDeed (s.sell c).1, (s.sell c).2) := by
  cases arguments with
  | error e => cases h
  | ok a =>
    cases h
    exact hrun a

/-- Arguments that cannot be read leave the store as it is. -/
theorem withArguments_of_no_sale (h : arguments.toOption.map sale = none) :
    (withArguments s arguments run).2 = s := by
  cases arguments with
  | error e => rfl
  | ok a => cases h

end Arguments

/-- Running a route that has a sale is that sale. -/
theorem runRoute_of_saleOn (s : Store) (query : String) {r : Request} {route : Route} {c : Sale}
    (h : r.saleOn? route = some c) :
    runRoute s route query r = (granted Reply.ofDeed (s.sell c).1, (s.sell c).2) := by
  cases route with
  | locations | location | occupancy => cases h
  | orders =>
    refine withArguments_of_sale (fun o => ?_) h
    simp only [Store.sell]
    rcases s.order o with ⟨_ | _, _⟩ <;> rfl
  | tickets =>
    refine withArguments_of_sale (fun q => ?_) h
    simp only [Store.sell]
    rcases s.reserve q with ⟨_ | _, _⟩ <;> rfl
  | ticket id =>
    rw [Request.saleOn?, ← toOption_mapError Rejection.path] at h
    refine withArguments_of_sale (fun k => ?_) h
    simp only [Store.sell]
    rcases s.release k with ⟨_ | _, _⟩ <;> rfl
  | refund id =>
    rw [Request.saleOn?, ← toOption_mapError Rejection.path] at h
    refine withArguments_of_sale (fun k => ?_) h
    simp only [Store.sell]
    rcases s.refund k with ⟨_ | _, _⟩ <;> rfl

/-- Asking leaves the store as it is, whether the question can be read or not. -/
theorem withArguments_of_question {α : Type} (s : Store) (arguments : Except Rejection α)
    (reply : α → Reply) : (withArguments s arguments fun a => (reply a, s)).2 = s := by
  cases arguments <;> rfl

/-- Running a route without a sale leaves the store as it is. -/
theorem runRoute_of_no_sale (s : Store) (query : String) {r : Request} {route : Route}
    (h : r.saleOn? route = none) : (runRoute s route query r).2 = s := by
  cases route with
  | locations | location | occupancy => exact withArguments_of_question s _ _
  | orders | tickets => exact withArguments_of_no_sale h
  | ticket id | refund id =>
    rw [Request.saleOn?, ← toOption_mapError Rejection.path] at h
    exact withArguments_of_no_sale h

/-- **The answer to a sale is that of the store.** -/
theorem answer_of_sale (s : Store) {r : Request} {c : Sale} (h : r.sale? = some c) :
    answer s r = (granted Reply.ofDeed (s.sell c).1, (s.sell c).2) := by
  unfold Request.sale? at h
  unfold answer
  split at h
  · cases h
  · next route hroute =>
    split at h
    · next ha =>
      have hne := (ne_head_of_saleOn h ha).2
      simp only [Request.route?] at hroute
      simp only [hroute, ha, if_true, runRoute_of_saleOn s _ h, if_neg hne]
    · cases h

/-- Every other answer leaves the store as it is. -/
theorem answer_of_no_sale (s : Store) {r : Request} (h : r.sale? = none) : (answer s r).2 = s := by
  unfold Request.sale? at h
  unfold answer
  split at h
  · next hroute =>
    simp only [Request.route?] at hroute
    simp only [hroute]
  · next route hroute =>
    simp only [Request.route?] at hroute
    split at h
    · next ha => simp only [hroute, ha, if_true, runRoute_of_no_sale s _ h]
    · next ha => simp only [hroute, ha, if_false, Bool.false_eq_true]

/-! ## 3. Success and change -/

/-- **A request leaves the store as it is, or it does a deed and is answered with success.** -/
theorem answer_cases (s : Store) (r : Request) :
    (deed? s r = none ∧ (answer s r).2 = s) ∨
    ∃ d, deed? s r = some d ∧ Does s d (answer s r).2 ∧ (answer s r).1 = Reply.ofDeed d := by
  cases hs : r.sale? with
  | none => exact Or.inl ⟨by rw [deed?, hs], answer_of_no_sale s hs⟩
  | some c =>
    rw [answer_of_sale s hs, deed?, hs]
    rcases s.sell_cases c with ⟨why, h⟩ | ⟨d, s', h, hd⟩
    · exact Or.inl ⟨by simp only [h]; rfl, by rw [h]⟩
    · exact Or.inr ⟨d, by simp only [h]; rfl, by rw [h]; exact hd, by rw [h]; rfl⟩

/-- The deed of a request is what its sale gives. -/
theorem sell_of_deed {s : Store} {r : Request} {c : Sale} {d : Deed} (asked : r.sale? = some c)
    (done : deed? s r = some d) : (s.sell c).1 = .ok d := by
  rw [deed?, asked] at done
  change (s.sell c).1.toOption = some d at done
  cases result : (s.sell c).1 with
  | error why =>
    rw [result] at done
    cases done
  | ok d' =>
    rw [result] at done
    cases done
    rfl

/-- A deed is done by a sale. -/
theorem exists_sale_of_deed {s : Store} {r : Request} {d : Deed} (done : deed? s r = some d) :
    ∃ c, r.sale? = some c ∧ (s.sell c).1 = .ok d := by
  cases asked : r.sale? with
  | some c => exact ⟨c, rfl, sell_of_deed asked done⟩
  | none =>
    rw [deed?, asked] at done
    cases done

/-- What a reservation that is granted does. -/
theorem answer_of_reserved {s : Store} {r : Request} {q : SeatRequest} {ts : List Ticket}
    (asked : r.sale? = some (.reserve q)) (granted : deed? s r = some (.reserved ts)) :
    ts = (s.addTickets q.eventShowId q.seatIds).1 ∧
      (answer s r).2 = (s.addTickets q.eventShowId q.seatIds).2 ∧
      ∀ seat ∈ q.seatIds, ¬ s.Holds q.eventShowId seat := by
  obtain ⟨_, given, e⟩ := exists_of_map_eq_ok (sell_of_deed asked granted)
  cases e
  rw [answer_of_sale s asked]
  exact Store.written_of_reserve given

/-- A refused sale is answered without success, and the store stays as it is. -/
theorem answer_of_refusal {s : Store} {r : Request} {c : Sale} {why : Refusal}
    (hs : r.sale? = some c) (h : (s.sell c).1 = .error why) :
    (answer s r).1.isSuccess = false ∧ (answer s r).2 = s := by
  rw [answer_of_sale s hs]
  rcases s.sell_cases c with ⟨why', h'⟩ | ⟨d, s', h', _⟩
  · rw [h']
    exact ⟨isSuccess_refusal why', rfl⟩
  · rw [h'] at h
    cases h

/-- A request that does a deed is a sale, sent with the method of its resource. -/
theorem addressed_of_sale {r : Request} {c : Sale} (h : r.sale? = some c) :
    (r.route? = some .orders ∧ r.method = "POST") ∨
    (r.route? = some .tickets ∧ r.method = "POST") ∨
    (∃ id, r.route? = some (.ticket id) ∧ r.method = "DELETE") ∨
    (∃ id, r.route? = some (.refund id) ∧ r.method = "PUT") := by
  unfold Request.sale? at h
  split at h
  · cases h
  · next route hroute =>
    split at h
    · next ha =>
      have hm := (ne_head_of_saleOn h ha).1
      cases route with
      | locations | location | occupancy => cases h
      | orders => exact Or.inl ⟨hroute, hm⟩
      | tickets => exact Or.inr (Or.inl ⟨hroute, hm⟩)
      | ticket id => exact Or.inr (Or.inr (Or.inl ⟨id, hroute, hm⟩))
      | refund id => exact Or.inr (Or.inr (Or.inr ⟨id, hroute, hm⟩))
    · cases h

/-- **A request without success changes nothing**, and a request that changes something is a sale,
    which leaves locations and shows alone. So an order whose last ticket is missing or purchased
    leaves the tickets before it reserved, and a reservation with one seat taken writes no ticket
    and uses up no id. -/
theorem answer_atomic (s : Store) (r : Request) :
    ((answer s r).1.isSuccess = false → (answer s r).2 = s) ∧
    ((answer s r).2 ≠ s →
      (r.route? = some .orders ∧ r.method = "POST") ∨
      (r.route? = some .tickets ∧ r.method = "POST") ∨
      (∃ id, r.route? = some (.ticket id) ∧ r.method = "DELETE") ∨
      (∃ id, r.route? = some (.refund id) ∧ r.method = "PUT")) ∧
    (answer s r).2.locations = s.locations ∧
    (answer s r).2.shows = s.shows ∧
    (∀ o ids last, r.sale? = some (.order o) → o.ticketIds = ids ++ [last] →
      (s.tickets.get? last = none ∨ ∃ t, s.tickets.get? last = some t ∧ t.state = .purchased) →
      (answer s r).1.isSuccess = false ∧ (answer s r).2 = s) ∧
    (∀ q seat, r.sale? = some (.reserve q) → seat ∈ q.seatIds → s.Holds q.eventShowId seat →
      (answer s r).1.isSuccess = false ∧ (answer s r).2 = s) := by
  refine ⟨fun h => ?_, fun h => ?_, ?_, ?_, fun o ids last hs hids hlast => ?_,
    fun q seat hs hseat held => ?_⟩
  · rcases answer_cases s r with ⟨_, same⟩ | ⟨d, _, _, reply⟩
    · exact same
    · rw [reply, isSuccess_ofDeed] at h
      cases h
  · cases hs : r.sale? with
    | none => exact absurd (answer_of_no_sale s hs) h
    | some c => exact addressed_of_sale hs
  · rcases answer_cases s r with ⟨_, same⟩ | ⟨d, _, hd, _⟩
    · rw [same]
    · exact hd.locations_eq
  · rcases answer_cases s r with ⟨_, same⟩ | ⟨d, _, hd, _⟩
    · rw [same]
    · exact hd.shows_eq
  · have hmem : last ∈ o.ticketIds := by simp [hids]
    obtain ⟨why, refused⟩ := s.order_refused hmem fun t found => by
      rcases hlast with missing | ⟨t', found', state⟩
      · rw [missing] at found
        cases found
      · rw [found'] at found
        cases found
        rw [state]
        decide
    exact answer_of_refusal hs (by simp only [Store.sell, refused]; rfl)
  · obtain ⟨why, refused⟩ := s.reserve_refused hseat held
    exact answer_of_refusal hs (by simp only [Store.sell, refused]; rfl)

/-- An order for two tickets. -/
def orderOfTwo : Request :=
  ⟨"POST", "/api/v1/orders", [("content-type", "application/json")],
   r#"{"ticketIds":[1,2],"billingName":"A","billingAddress":"B","paymentMethod":"X"}"#⟩

/-- If only the first of its tickets exists, the order is refused and the first one stays reserved. -/
theorem order_of_two_with_one_missing :
    orderOfTwo.sale? = some (.order ⟨[1] ++ [2], "A", "B", "X"⟩) ∧
    (Store.seeded.addTicket 1 5).2.tickets.get? 2 = none ∧
    (answer (Store.seeded.addTicket 1 5).2 orderOfTwo).1.isSuccess = false ∧
    (answer (Store.seeded.addTicket 1 5).2 orderOfTwo).2 = (Store.seeded.addTicket 1 5).2 := by
  have asked : orderOfTwo.sale? = some (.order ⟨[1] ++ [2], "A", "B", "X"⟩) := by decide +kernel
  have missing : (Store.seeded.addTicket 1 5).2.tickets.get? 2 = none := by decide +kernel
  exact ⟨asked, missing,
    (answer_atomic _ orderOfTwo).2.2.2.2.1 _ [1] 2 asked rfl (Or.inl missing)⟩

end BoxOffice.Server
