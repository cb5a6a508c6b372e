import BoxOffice.Proofs.Addressing
import BoxOffice.Proofs.Deed
import BoxOffice.Proofs.Exchange
import BoxOffice.Proofs.Json.Extent
import BoxOffice.Proofs.Money
import BoxOffice.Proofs.Query
import BoxOffice.Proofs.Wire

/-!
# Calls over a loopback are calls of the store

* `Store.handle` -- what the box office does for a call, without a request in between;
* `answer_arriving_eq` -- the reply to the request of a call is the reply to what the store gives, so no
  resource, method, argument or body is ever rejected;
* `Received`, `received_read` -- what the client makes of that reply;
* `Served`, `served_dispatch` -- one call over a loopback;
* `serves_run` -- every run of calls, from the seeded store on.
-/

namespace BoxOffice

open BoxOffice.Client (Call Answer Failure Outcome)
open BoxOffice.Server (Reply refusalStatus)

/-! ## 1. Calls of the store -/

namespace Store

/-- **What the box office does for a call**, with the arguments as they are. -/
def handle (s : Store) : Call → Except Refusal Answer × Store
  | .findLocations f p => ((s.findLocations f p).map .locations, s)
  | .findLocation id => ((s.location id).map .location, s)
  | .order o => ((s.order o.received).1.map .invoice, (s.order o.received).2)
  | .refund id => ((s.refund id).1.map .invoice, (s.refund id).2)
  | .release id => ((s.release id).1.map fun _ => .nothing, (s.release id).2)
  | .occupancy f => (.ok (.seatings (s.occupancy f)), s)
  | .reserve r => ((s.reserve r).1.map .tickets, (s.reserve r).2)

end Store

namespace Client.Call

/-- The status of success. -/
def success : Call → Nat
  | .order _ | .reserve _ => 201
  | .release _ => 204
  | .findLocations _ _ | .findLocation _ | .refund _ | .occupancy _ => 200

/-- **The reply to what the store gives for a call.** -/
def reply (c : Call) : Except Refusal Answer → Reply
  | .error r => .bare (refusalStatus r)
  | .ok (.locations p) => .json c.success (Server.locationPageValue p)
  | .ok (.location l) => .json c.success (Server.locationValue l)
  | .ok (.invoice i) => .json c.success (Server.invoiceValue i)
  | .ok (.seatings ss) => .json c.success (.list (ss.map Server.seatingValue))
  | .ok (.tickets ts) => .json c.success (.list (ts.map Server.ticketValue))
  | .ok .nothing => .bare c.success

/-- The body of the call is no longer than a body may be. -/
def Fits (c : Call) : Prop := (c.text?.getD "").utf8ByteSize ≤ Server.bodyLimit

instance (c : Call) : Decidable c.Fits := inferInstanceAs (Decidable (_ ≤ _))

theorem Fits.short {c : Call} (h : c.Fits) {v : Json.Value} (body : c.body = some (.ok v)) :
    v.write.utf8ByteSize ≤ Server.bodyLimit := by
  have text : c.text? = some v.write := by rw [text?, body]
  rwa [Fits, text] at h

end Client.Call

/-! ## 2. The reply to a call -/

/-- **The request of a call is answered with what the store gives for the call**: it is never rejected. -/
theorem answer_arriving_eq {baseUrl : String} (base : IsBareOrigin baseUrl) {token : Option String}
    {c : Call} (fits : c.Fits) {r : Client.Request} (request : c.request (.under baseUrl token) = .ok r)
    (s : Store) : Server.answer s (arriving r) = (c.reply (s.handle c).1, (s.handle c).2) := by
  rw [answer_arriving base request]
  cases c with
  | findLocations f p =>
    have arguments := Server.locationQuery_encode f p
    show Server.runRoute s .locations (Form.encode (Call.locationCriteria f p).pairs) _ = _
    rw [Server.runRoute, arguments]
    show (Server.granted _ (s.findLocations f.asked p), s) = _
    rw [s.findLocations_asked, Store.handle]
    cases s.findLocations f p <;> rfl
  | findLocation id =>
    show Server.runRoute s (.location _) _ _ = _
    rw [Server.runRoute, pathId_digits, Store.handle]
    show (Server.granted _ (s.location id), s) = _
    cases s.location id <;> rfl
  | order o =>
    have body : Call.body (.order o) = some (.ok (Client.orderValue o)) := rfl
    have read : (arriving r).jsonBody Server.order = .ok o.received := by
      rw [jsonBody_arriving request body (fits.short body), Json.read_write, Server.order_tree]
      rfl
    show Server.runRoute s .orders _ _ = _
    rw [Server.runRoute, read, Store.handle]
    show (Server.granted _ (s.order o.received).1, _) = _
    cases (s.order o.received).1 <;> rfl
  | refund id =>
    show Server.runRoute s (.refund _) _ _ = _
    rw [Server.runRoute, pathId_digits, Store.handle]
    show (Server.granted _ (s.refund id).1, _) = _
    cases (s.refund id).1 <;> rfl
  | release id =>
    show Server.runRoute s (.ticket _) _ _ = _
    rw [Server.runRoute, pathId_digits, Store.handle]
    show (Server.granted _ (s.release id).1, _) = _
    cases (s.release id).1 <;> rfl
  | occupancy f =>
    have arguments := Server.seatingQuery_encode f
    show Server.runRoute s .occupancy (Form.encode (Call.seatingCriteria f).pairs) _ = _
    rw [Server.runRoute, arguments]
    rfl
  | reserve q =>
    have body : Call.body (.reserve q) = some (.ok (Client.seatRequestValue q)) := rfl
    have read : (arriving r).jsonBody Server.seatRequest = .ok q := by
      rw [jsonBody_arriving request body (fits.short body), Json.read_write, Server.seatRequest_tree]
      rfl
    show Server.runRoute s .tickets _ _ = _
    rw [Server.runRoute, read, Store.handle]
    show (Server.granted _ (s.reserve q).1, _) = _
    cases (s.reserve q).1 <;> rfl

/-! ## 3. Totals -/

namespace Store

/-- A call does a deed, or it leaves the store as it is. -/
theorem handle_cases (s : Store) (c : Call) :
    (s.handle c).2 = s ∨ ∃ d, Does s d (s.handle c).2 := by
  cases c with
  | findLocations | findLocation | occupancy => exact Or.inl rfl
  | order o =>
    rcases s.order_cases o.received with ⟨why, h⟩ | ⟨total, h, nonempty, nodup, bill⟩
    · exact Or.inl (congrArg Prod.snd h)
    · exact Or.inr ⟨_, by rw [handle, h]; exact .purchased nonempty nodup bill⟩
  | refund id =>
    rcases s.refund_cases id with ⟨why, h⟩ | ⟨t, h, found, state⟩
    · exact Or.inl (congrArg Prod.snd h)
    · exact Or.inr ⟨_, by rw [handle, h]; exact .refunded found state⟩
  | release id =>
    rcases s.release_cases id with ⟨why, h⟩ | ⟨t, h, found, state⟩
    · exact Or.inl (congrArg Prod.snd h)
    · exact Or.inr ⟨_, by rw [handle, h]; exact .released found state⟩
  | reserve q =>
    rcases s.reserve_cases q with ⟨why, h⟩ | ⟨h, nonempty, known, free⟩
    · exact Or.inl (congrArg Prod.snd h)
    · exact Or.inr ⟨_, by rw [handle, h]; exact .reserved nonempty known free⟩

theorem handle_shows (s : Store) (c : Call) : (s.handle c).2.shows = s.shows := by
  rcases s.handle_cases c with same | ⟨d, does⟩
  · rw [same]
  · exact does.shows_eq

end Store

/-- An order that fits lists no more tickets than a body has bytes. -/
theorem Client.Call.Fits.length_ticketIds {o : Order PaymentMethod} (fits : (Call.order o).Fits) :
    o.ticketIds.length ≤ Server.bodyLimit + 1 := by
  have body : Call.body (.order o) = some (.ok (Client.orderValue o)) := rfl
  have size : (Client.orderValue o).tree.extent ≤ (Client.orderValue o).write.utf8ByteSize + 1 := by
    have built := Json.extent_ofText (Client.orderValue o).write
    rwa [Json.ofText_write] at built
  obtain ⟨found, built, small⟩ := Json.Record.extent_of_reader (Server.order_tree o)
  obtain ⟨g, hg, built⟩ := Json.exists_of_bind_eq_ok built
  obtain ⟨method, _, built⟩ := Json.exists_of_bind_eq_ok built
  obtain ⟨g', hg', hg⟩ := Json.exists_of_bind_eq_ok hg
  obtain ⟨address, _, hg⟩ := Json.exists_of_bind_eq_ok hg
  obtain ⟨g'', hg'', hg'⟩ := Json.exists_of_bind_eq_ok hg'
  obtain ⟨name, _, hg'⟩ := Json.exists_of_bind_eq_ok hg'
  obtain ⟨mk, hmk, hg''⟩ := Json.exists_of_bind_eq_ok hg''
  obtain ⟨ids, hids, hg''⟩ := Json.exists_of_bind_eq_ok hg''
  cases hmk
  cases hg''
  cases hg'
  cases hg
  have same : ids = o.ticketIds := congrArg Order.ticketIds (Except.ok.inj built)
  have short := fits.short body
  rw [← same]
  exact Nat.le_trans (Json.length_of_field hids small) (by omega)

/-- **The total of every invoice can be read.** -/
theorem exists_total {s : Store} (shows : s.shows = Store.seeded.shows) {c : Call} (fits : c.Fits)
    {i : Invoice} (h : (s.handle c).1 = .ok (.invoice i)) :
    ∃ total, Json.float64 (Json.Value.float i.totalPrice).tree = .ok total := by
  cases c with
  | order o =>
    obtain ⟨i', given, e⟩ := exists_of_map_eq_ok h
    cases e
    have limit : Server.bodyLimit = 2097152 := rfl
    have short := fits.length_ticketIds
    have count : 0 + o.ticketIds.length < 2 ^ 22 := by omega
    exact Json.exists_float64_tree count
      (Store.bill_atMost shows pricesAtMost_zero (Store.bill_of_order given).2 count)
  | refund id =>
    obtain ⟨i', given, e⟩ := exists_of_map_eq_ok h
    cases e
    obtain ⟨_, _, t, _, price⟩ := Store.price_of_refund given
    rw [price]
    exact Json.exists_float64_tree (by decide) (Store.priceOf_atMost shows t)
  | findLocations | findLocation | release | reserve =>
    obtain ⟨_, _, e⟩ := exists_of_map_eq_ok h
    cases e
  | occupancy => cases h

/-! ## 4. What the client makes of a reply -/

/-- **What the client gets for what the store gives**: the same, but for a total, which is read from the
    number that was written; status and body of a refusal, which is *not found* for status 404. -/
inductive Received : Except Refusal Answer → Except Failure Answer → Prop where
  | invoice {i : Invoice} {total : Float}
      (read : Json.Reader.read Json.float64 (Json.Value.float i.totalPrice).write = .ok total) :
      Received (.ok (.invoice i)) (.ok (.invoice { i with totalPrice := total }))
  | answer {a : Answer} (other : ∀ i, a ≠ .invoice i) : Received (.ok a) (.ok a)
  | notFound {r : Refusal} (status : refusalStatus r = 404) : Received (.error r) (.error .notFound)
  | refused {r : Refusal} (status : refusalStatus r ≠ 404) :
      Received (.error r) (.error (.status (.ofNat (refusalStatus r)) ""))

/-- A value in a reply of success is read. -/
theorem json_returning {α : Type} {reader : Json.Reader α} {v : Json.Value} {a : α} {status : Nat}
    (success : status = 200 ∨ status = 201) (read : reader v.tree = .ok a) :
    (returning (.json status v)).json reader = .ok a := by
  refine Client.Response.json_of_write ?_ rfl read
  rcases success with rfl | rfl
  · rfl
  · rfl

/-- A refusal is a failure, whatever was called. -/
theorem read_refusal (c : Call) (r : Refusal) : c.read (returning (.bare (refusalStatus r))) =
    .error (if refusalStatus r = 404 then .notFound else .status (.ofNat (refusalStatus r)) "") := by
  have check : (returning (.bare (refusalStatus r))).check =
      .error (if refusalStatus r = 404 then .notFound else .status (.ofNat (refusalStatus r)) "") := by
    cases r <;> rfl
  cases c <;> (simp only [Call.read, Client.Response.json, Client.Response.nothing, check]; rfl)

theorem received_refusal (c : Call) (r : Refusal) :
    Received (.error r) (c.read (returning (c.reply (.error r)))) := by
  rw [Call.reply, read_refusal]
  split
  · next status => exact .notFound status
  · next status => exact .refused status

/-- An answer that is no invoice is read as it is. -/
theorem received_answer {α : Type} {reader : Json.Reader α} {v : Json.Value} {a : α} {status : Nat}
    {answer : α → Answer} (success : status = 200 ∨ status = 201)
    (other : ∀ a i, answer a ≠ .invoice i) (read : reader v.tree = .ok a) :
    Received (.ok (answer a)) (((returning (.json status v)).json reader).map answer) := by
  rw [json_returning success read]
  exact .answer (other a)

/-- An invoice is read with the total that its number stands for. -/
theorem received_invoice {i : Invoice} {total : Float} {status : Nat}
    (success : status = 200 ∨ status = 201)
    (read : Json.float64 (Json.Value.float i.totalPrice).tree = .ok total) :
    Received (.ok (.invoice i))
      (((returning (.json status (Server.invoiceValue i))).json Client.invoice).map .invoice) := by
  rw [json_returning success (Client.invoice_tree i read)]
  refine .invoice ?_
  rw [Json.read_write, read]

/-- **The client gets what the store gives.** -/
theorem received_read {s : Store} (shows : s.shows = Store.seeded.shows) {c : Call} (fits : c.Fits) :
    Received (s.handle c).1 (c.read (returning (c.reply (s.handle c).1))) := by
  have total := fun {i} => exists_total shows fits (i := i)
  cases result : (s.handle c).1 with
  | error r => exact received_refusal c r
  | ok a =>
    cases c with
    | findLocations f p =>
      obtain ⟨page, _, rfl⟩ := exists_of_map_eq_ok result
      exact received_answer (.inl rfl) (fun _ _ e => by cases e) (Client.page_tree page)
    | findLocation id =>
      obtain ⟨l, _, rfl⟩ := exists_of_map_eq_ok result
      exact received_answer (.inl rfl) (fun _ _ e => by cases e) (Client.location_tree l)
    | order o =>
      obtain ⟨i, _, rfl⟩ := exists_of_map_eq_ok result
      obtain ⟨y, read⟩ := total result
      exact received_invoice (.inr rfl) read
    | refund id =>
      obtain ⟨i, _, rfl⟩ := exists_of_map_eq_ok result
      obtain ⟨y, read⟩ := total result
      exact received_invoice (.inl rfl) read
    | release id =>
      obtain ⟨_, _, rfl⟩ := exists_of_map_eq_ok result
      exact .answer fun _ e => by cases e
    | occupancy f =>
      cases result
      exact received_answer (.inl rfl) (fun _ _ e => by cases e)
        (Json.list_tree fun seating _ => Client.seating_tree seating)
    | reserve q =>
      obtain ⟨ts, _, rfl⟩ := exists_of_map_eq_ok result
      exact received_answer (.inr rfl) (fun _ _ e => by cases e)
        (Json.list_tree fun ticket _ => Client.ticket_tree ticket)

/-! ## 5. Calls over a loopback -/

/-- **One call over a loopback**: one request is sent, it reaches the resource of the call, the box office
    answers it with what the store gives, and that is what the client gets. -/
structure Served (s : Store) (c : Call) (o : Outcome) : Prop where
  sent : ∃ r, o.sent = [r] ∧ c.Reaches r ∧
    Server.answer s (arriving r) = (c.reply (s.handle c).1, (s.handle c).2)
  received : Received (s.handle c).1 o.result

/-- **Calls one after the other**, each in the store that the ones before it leave. -/
inductive Serves : Store → List Call → List Outcome → Store → Prop where
  | none (s : Store) : Serves s [] [] s
  | next {s s' : Store} {c : Call} {cs : List Call} {o : Outcome} {os : List Outcome}
      (first : Served s c o) (rest : Serves (s.handle c).2 cs os s') : Serves s (c :: cs) (o :: os) s'

/-- One call over a loopback. -/
theorem served_dispatch {baseUrl : String} (base : IsBareOrigin baseUrl) (token : Option String)
    {s : Store} (shows : s.shows = Store.seeded.shows) {c : Call} (fits : c.Fits) :
    ∃ o, (Client.Sites.under baseUrl token).dispatch loopback c s = (o, (s.handle c).2) ∧
      Served s c o := by
  obtain ⟨r, request⟩ : ∃ r, c.request (.under baseUrl token) = .ok r := ⟨_, Client.request_eq _ c⟩
  have answer := answer_arriving_eq base fits request s
  refine ⟨⟨c.endpoint.name, [r], c.read (returning (c.reply (s.handle c).1)),
    [.entered c.endpoint.name]⟩, ?_, ⟨r, rfl, reaches_arriving base request, answer⟩, received_read shows fits⟩
  rw [Client.Sites.dispatch, request]
  simp only [loopback, answer]
  rfl

/-- From a store with the seeded shows on, calls over a loopback are calls of the store. -/
theorem serves_run_of_shows {baseUrl : String} (base : IsBareOrigin baseUrl) (token : Option String) :
    ∀ {cs : List Call} {s : Store}, s.shows = Store.seeded.shows → (∀ c ∈ cs, c.Fits) →
      Serves s cs ((Client.Sites.under baseUrl token).run loopback cs s).1
        ((Client.Sites.under baseUrl token).run loopback cs s).2
  | [], s, _, _ => .none s
  | c :: cs, s, shows, fits => by
    obtain ⟨o, dispatch, served⟩ := served_dispatch base token shows (fits c List.mem_cons_self)
    have rest := serves_run_of_shows base token ((s.handle_shows c).trans shows)
      fun c' mem => fits c' (List.mem_cons_of_mem c mem)
    rw [Client.Sites.run, dispatch]
    exact .next served rest

/-- **Every run of calls over a loopback is a run of calls of the store.** -/
theorem serves_run {baseUrl : String} (base : IsBareOrigin baseUrl) (token : Option String)
    {cs : List Call} (fits : ∀ c ∈ cs, c.Fits) :
    Serves .seeded cs ((Client.Sites.under baseUrl token).run loopback cs .seeded).1
      ((Client.Sites.under baseUrl token).run loopback cs .seeded).2 :=
  serves_run_of_shows base token rfl fits

/-- A ticket that is reserved and paid, one that is not there, and a page of no length. -/
def sampleCalls : List Call :=
  [.reserve ⟨1, [7]⟩, .order ⟨[1], "Ada", "Wien", .creditCard⟩, .release (-1),
   .findLocations ⟨some "ä&=+", some "", none, none, none⟩ ⟨none, some 0⟩]

theorem serves_run_sampleCalls :
    IsBareOrigin "http://localhost:3000/" ∧ (∀ c ∈ sampleCalls, c.Fits) ∧
    Serves .seeded sampleCalls
      ((Client.Sites.under "http://localhost:3000/" (some "t")).run loopback sampleCalls .seeded).1
      ((Client.Sites.under "http://localhost:3000/" (some "t")).run loopback sampleCalls .seeded).2 ∧
    ((Client.Sites.under "http://localhost:3000/" (some "t")).run loopback sampleCalls .seeded).1.map
      (·.result) =
      [.ok (.tickets [⟨1, 7, 1, .reserved⟩]), .ok (.invoice ⟨1, .purchase, [1], 49.9⟩),
       .error .notFound, .error (.status 400 "")] := by
  have base : IsBareOrigin "http://localhost:3000/" :=
    ⟨"http://localhost:3000".toList, 1, by decide, "http".toList, "localhost:3000".toList, by decide⟩
  have fits : ∀ c ∈ sampleCalls, c.Fits := by decide +kernel
  exact ⟨base, fits, serves_run base (some "t") fits, by decide +kernel⟩

end BoxOffice
