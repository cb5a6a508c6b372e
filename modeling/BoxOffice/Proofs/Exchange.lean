import BoxOffice.Proofs.Addressing
import BoxOffice.Proofs.Wire

/-!
# What one side writes, the other side reads

* `Client.Response.json_of_write` -- a response of success whose body is a written value is read off the
  tree of that value;
* `bodies_read_back` -- the bodies of orders and reservations mean to the box office what they mean to the
  client, and the answers of the box office mean to the client what they mean to the box office.
-/

namespace BoxOffice

open BoxOffice.Client (Call Response)

/-- The body of a successful response is read as the value that was written. -/
theorem Client.Response.json_of_write {α : Type} {reader : Json.Reader α} {v : Json.Value} {a : α}
    {r : Response} (success : r.isSuccess = true) (body : r.body = v.write) (read : reader v.tree = .ok a) :
    r.json reader = .ok a := by
  have check : r.check = .ok () := by rw [Response.check, if_pos success]
  rw [Response.json, check, body, Json.read_write, read]
  rfl

/-- The body of a call is its payload as it is written. -/
theorem Client.Call.exists_body (sites : Client.Sites) {c : Call} {v : Json.Value}
    (payload : c.body = some (.ok v)) : ∃ r, c.request sites = .ok r ∧ r.body = some v.write := by
  refine ⟨_, Client.request_eq sites c, ?_⟩
  show c.text? = some v.write
  rw [Call.text?, payload]

/-- **The two sides agree on what they write**, whatever ids, texts and lists it holds. -/
theorem bodies_read_back :
    (∀ (sites : Client.Sites) (o : Order PaymentMethod), ∃ r body,
      (Call.order o).request sites = .ok r ∧ r.body = some body ∧
        Json.Reader.read Server.order body = .ok o.received) ∧
    (∀ (sites : Client.Sites) (q : SeatRequest), ∃ r body,
      (Call.reserve q).request sites = .ok r ∧ r.body = some body ∧
        Json.Reader.read Server.seatRequest body = .ok q) ∧
    (∀ r : Response, r.isSuccess = true →
      (∀ id l, r.body = (Server.locationValue l).write →
        (Call.findLocation id).read r = .ok (.location l)) ∧
      (∀ f wanted p, r.body = (Server.locationPageValue p).write →
        (Call.findLocations f wanted).read r = .ok (.locations p)) ∧
      (∀ q ts, r.body = (Json.Value.list (ts.map Server.ticketValue)).write →
        (Call.reserve q).read r = .ok (.tickets ts)) ∧
      (∀ f ss, r.body = (Json.Value.list (ss.map Server.seatingValue)).write →
        (Call.occupancy f).read r = .ok (.seatings ss))) := by
  refine ⟨fun sites o => ?_, fun sites q => ?_, fun r success => ⟨?_, ?_, ?_, ?_⟩⟩
  · obtain ⟨r, request, body⟩ := Call.exists_body sites (c := .order o) rfl
    exact ⟨r, _, request, body, by rw [Json.read_write, Server.order_tree]⟩
  · obtain ⟨r, request, body⟩ := Call.exists_body sites (c := .reserve q) rfl
    exact ⟨r, _, request, body, by rw [Json.read_write, Server.seatRequest_tree]⟩
  · intro id l body
    rw [Call.read, Response.json_of_write success body (Client.location_tree l)]
    rfl
  · intro f wanted p body
    rw [Call.read, Response.json_of_write success body (Client.page_tree p)]
    rfl
  · intro q ts body
    have read := Json.list_tree fun (t : Ticket) (_ : t ∈ ts) => Client.ticket_tree t
    rw [Call.read, Response.json_of_write success body read]
    rfl
  · intro f ss body
    have read := Json.list_tree fun (s : Seating) (_ : s ∈ ss) => Client.seating_tree s
    rw [Call.read, Response.json_of_write success body read]
    rfl

/-- A location whose texts need every kind of escape, under the least id. -/
def awkwardLocation : Location :=
  ⟨-9223372036854775808, "\"\\/", "\n\t\x00\x1f\x7f", "", "ä€😀", "\u2028{[,:]}"⟩

/-- It is read back, with any status of success. -/
theorem bodies_read_back_awkwardLocation :
    (⟨226, [], (Server.locationValue awkwardLocation).write⟩ : Response).isSuccess = true ∧
    (Call.findLocation 7).read ⟨226, [], (Server.locationValue awkwardLocation).write⟩ =
      .ok (.location awkwardLocation) :=
  ⟨rfl, (bodies_read_back.2.2 _ rfl).1 7 awkwardLocation rfl⟩

end BoxOffice
