import BoxOffice.Proofs.Addressing
import BoxOffice.Proofs.Query
import BoxOffice.Proofs.Wire

/-!
# A request tells which call it is of

Everything in the request of a call can be read back: the path names the resource and the id, the query
holds the criteria, the body is the text of a value. So calls with the same request are the same call, up
to empty words, which no request mentions.

* `Call.asked` -- the call without its empty words;
* `locationCriteria_eq_iff`, `seatingCriteria_inj`, `orderText_inj`, `seatRequestText_inj` -- what the
  parts of a request tell;
* `Call.asked_eq_of_parts` -- the resource, the criteria and the body are enough to tell the call;
* `parts_of_arriving` -- all three can be told from a request as it goes over the wire;
* `request_eq_iff` -- so requests are as different as their calls.
-/

namespace BoxOffice

open BoxOffice.Text
open BoxOffice.Number
open BoxOffice.Client (Call Criterion Criteria Sites)
open BoxOffice.Server (Route pathId)

/-! ## 1. Words that count -/

/-- The call without its empty words. -/
def Client.Call.asked : Call → Call
  | .findLocations f p => .findLocations f.asked p
  | .findLocation id => .findLocation id
  | .order o => .order o
  | .refund id => .refund id
  | .release id => .release id
  | .occupancy f => .occupancy f
  | .reserve q => .reserve q

/-- An empty word has no pair, as no word has none. -/
theorem Client.Criteria.pair?_filter (name : String) (o : Option String) :
    pair? (name, .ofOption .text (o.filter (! ·.isEmpty))) = pair? (name, .ofOption .text o) := by
  cases o with
  | none => rfl
  | some s =>
    rw [Option.filter_some]
    cases empty : s.isEmpty with
    | false => rfl
    | true =>
      show none = pair? (name, .text s)
      rw [pair?, Criterion.isPresent, empty]
      rfl

/-- The criteria of a search are those of its words that count. -/
theorem locationCriteria_asked (f : LocationFilter) (p : PageRequest) :
    (Call.locationCriteria f.asked p).pairs = (Call.locationCriteria f p).pairs := by
  simp only [Call.locationCriteria, LocationFilter.asked, Criteria.pairs_ofEntries,
    List.filterMap_cons, Criteria.pair?_filter]

theorem criteria_asked (c : Call) : c.asked.criteria.pairs = c.criteria.pairs := by
  cases c with
  | findLocations f p => exact locationCriteria_asked f p
  | _ => rfl

/-! ## 2. What the parts of a request tell -/

/-- **Searches with the same criteria ask for the same.** -/
theorem locationCriteria_eq_iff {f g : LocationFilter} {p q : PageRequest} :
    (Call.locationCriteria f p).pairs = (Call.locationCriteria g q).pairs ↔ f.asked = g.asked ∧ p = q := by
  constructor
  · intro same
    have read := Server.locationQuery_encode f p
    rw [same, Server.locationQuery_encode g q] at read
    obtain ⟨words, page⟩ := Prod.mk.inj (Except.ok.inj read)
    exact ⟨words.symm, page.symm⟩
  · rintro ⟨same, rfl⟩
    rw [← locationCriteria_asked f, same, locationCriteria_asked]

/-- Questions for an occupancy with the same criteria are the same. -/
theorem seatingCriteria_inj {f g : SeatingFilter}
    (same : (Call.seatingCriteria f).pairs = (Call.seatingCriteria g).pairs) : f = g := by
  have read := Server.seatingQuery_encode f
  rw [same, Server.seatingQuery_encode g] at read
  exact (Except.ok.inj read).symm

/-- Ids that are written alike are the same. -/
theorem idDigits_inj {a b : Int64}
    (same : String.ofList (intDigits a.toInt) = String.ofList (intDigits b.toInt)) : a = b := by
  have read := pathId_digits a
  rw [same, pathId_digits b] at read
  exact (Except.ok.inj read).symm

theorem PaymentMethod.name_inj : ∀ {p q : PaymentMethod}, p.name = q.name → p = q
  | .creditCard, .creditCard, _ | .bankTransfer, .bankTransfer, _ => rfl
  | .creditCard, .bankTransfer, h | .bankTransfer, .creditCard, h => absurd h (by decide)

/-- An order is known by how it is received. -/
theorem Order.received_inj {o o' : Order PaymentMethod} (same : o.received = o'.received) : o = o' := by
  obtain ⟨ids, name, address, named⟩ := Order.mk.inj same
  cases o
  cases o'
  exact (Order.mk.injEq ..).mpr ⟨ids, name, address, PaymentMethod.name_inj named⟩

/-- Orders with the same text are the same. -/
theorem orderText_inj {o o' : Order PaymentMethod}
    (same : (Client.orderValue o).write = (Client.orderValue o').write) : o = o' := by
  have read := (Json.read_write Server.order (Client.orderValue o)).trans (Server.order_tree o)
  rw [same, Json.read_write, Server.order_tree] at read
  exact Order.received_inj (Except.ok.inj read).symm

/-- Reservations with the same text are the same. -/
theorem seatRequestText_inj {q q' : SeatRequest}
    (same : (Client.seatRequestValue q).write = (Client.seatRequestValue q').write) : q = q' := by
  have read := (Json.read_write Server.seatRequest (Client.seatRequestValue q)).trans
    (Server.seatRequest_tree q)
  rw [same, Json.read_write, Server.seatRequest_tree] at read
  exact (Except.ok.inj read).symm

/-- **The resource, the criteria and the body tell the call.** -/
theorem Client.Call.asked_eq_of_parts {c c' : Call} (route : c.route = c'.route)
    (criteria : c.criteria.pairs = c'.criteria.pairs) (text : c.text?.getD "" = c'.text?.getD "") :
    c.asked = c'.asked := by
  -- no two operations have a resource in common, so only the arguments are to be compared
  cases c with
  | findLocations f p =>
    cases c' with
    | findLocations g q =>
      obtain ⟨words, rfl⟩ := locationCriteria_eq_iff.mp criteria
      rw [asked, asked, words]
    | _ => cases route
  | findLocation id =>
    cases c' with
    | findLocation id' => rw [idDigits_inj (Route.location.inj route)]
    | _ => cases route
  | order o =>
    cases c' with
    | order o' => rw [orderText_inj text]
    | _ => cases route
  | refund id =>
    cases c' with
    | refund id' => rw [idDigits_inj (Route.refund.inj route)]
    | _ => cases route
  | release id =>
    cases c' with
    | release id' => rw [idDigits_inj (Route.ticket.inj route)]
    | _ => cases route
  | occupancy f =>
    cases c' with
    | occupancy g => rw [seatingCriteria_inj criteria]
    | _ => cases route
  | reserve q =>
    cases c' with
    | reserve q' => rw [seatRequestText_inj text]
    | _ => cases route

/-! ## 3. The parts of a request on the wire -/

/-- What follows the URL in a URI. -/
def queryPart : List (String × String) → List Char
  | [] => []
  | p :: ps => '?' :: Form.encodeChars (p :: ps)

theorem toList_requestUri (r : Client.Request) :
    (requestUri r).toList = r.url.toList ++ queryPart r.query := by
  unfold requestUri
  split
  · next none =>
    rw [none, queryPart, List.append_nil]
  · next some =>
    have question : "?".toList = ['?'] := by decide
    cases pairs : r.query with
    | nil => exact absurd pairs some
    | cons p ps =>
      rw [String.toList_append, String.toList_append, question, Form.encode, String.toList_ofList,
        queryPart, List.append_assoc, List.singleton_append]

/-- The URL ends where the query begins. -/
theorem cutAt_queryPart {path : List Char} (mark : '?' ∉ path) (pairs : List (String × String)) :
    cutAt '?' (path ++ queryPart pairs) =
      (path, if pairs = [] then none else some (Form.encodeChars pairs)) := by
  cases pairs with
  | nil => rw [queryPart, List.append_nil, cutAt_of_not_mem mark, if_pos rfl]
  | cons p ps => rw [queryPart, cutAt_append _ mark, if_neg (List.cons_ne_nil p ps)]

theorem encodeChars_inj {ps qs : List (String × String)} (same : Form.encodeChars ps = Form.encodeChars qs) :
    ps = qs := by
  rw [← Form.decode_encode ps, ← Form.decode_encode qs, Form.encode, Form.encode, same]

/-- The same path with the same query is made of the same parts. -/
theorem parts_of_path {path path' : List Char} (mark : '?' ∉ path) (mark' : '?' ∉ path')
    {ps qs : List (String × String)} (same : path ++ queryPart ps = path' ++ queryPart qs) :
    path = path' ∧ ps = qs := by
  have cut := cutAt_queryPart mark ps
  rw [same, cutAt_queryPart mark' qs] at cut
  obtain ⟨rfl, query⟩ := Prod.mk.inj cut
  refine ⟨rfl, ?_⟩
  split at query
  · next none =>
    split at query
    · next none' => rw [none, none']
    · cases query
  · split at query
    · cases query
    · exact encodeChars_inj (Option.some.inj query).symm

section Wire

variable {baseUrl : String} {token : Option String} {c c' : Call} {r r' : Client.Request}

/-- The URI of a call's request: the base, the path, and the query. -/
theorem toList_requestUri_call (request : c.request (.under baseUrl token) = .ok r) :
    (requestUri r).toList = Client.stem baseUrl ++ (c.path ++ queryPart c.criteria.pairs) := by
  obtain ⟨_, url, query, _⟩ := Client.request_parts request
  rw [toList_requestUri, url, query, String.toList_ofList, List.append_assoc]

/-- **The parts of a call can be told from its request on the wire.** -/
theorem parts_of_arriving (request : c.request (.under baseUrl token) = .ok r)
    (request' : c'.request (.under baseUrl token) = .ok r') (same : arriving r = arriving r') :
    c.route = c'.route ∧ c.criteria.pairs = c'.criteria.pairs ∧ c.text?.getD "" = c'.text?.getD "" := by
  have uri : requestUri r = requestUri r' := congrArg Server.Request.uri same
  have chars := congrArg String.toList uri
  rw [toList_requestUri_call request, toList_requestUri_call request', List.append_cancel_left_eq] at chars
  have mark : ∀ d : Call, '?' ∉ d.path := fun d => (not_mem_pathOf (isSegment_of_mem d)).1
  obtain ⟨path, criteria⟩ := parts_of_path (mark c) (mark c') chars
  have route : c.route = c'.route := by
    have named := ofPath?_path c
    rw [path, ofPath?_path c'] at named
    exact (Option.some.inj named).symm
  have body : r.body.getD "" = r'.body.getD "" := congrArg Server.Request.body same
  obtain ⟨_, _, _, _, text⟩ := Client.request_parts request
  obtain ⟨_, _, _, _, text'⟩ := Client.request_parts request'
  rw [text, text'] at body
  exact ⟨route, criteria, body⟩

end Wire

/-! ## 4. Requests and calls -/

/-- Calls that ask for the same have the same request. -/
theorem request_asked (sites : Sites) (c : Call) : c.asked.request sites = c.request sites := by
  have criteria := criteria_asked c
  rw [Client.request_eq, Client.request_eq, criteria]
  cases c <;> rfl

/-- **Requests are as different as their calls**: under any base URL, with or without a token, every call
    has a request, and two calls have the same one exactly if they are the same operation with the same
    arguments, up to empty words. They are not confused on the wire either, where the query stands in the
    URI. -/
theorem request_eq_iff (baseUrl : String) (token : Option String) (c c' : Call) :
    (∃ r, c.request (.under baseUrl token) = .ok r) ∧
    (c.request (.under baseUrl token) = c'.request (.under baseUrl token) ↔ c.asked = c'.asked) ∧
    ((c.request (.under baseUrl token)).map arriving = (c'.request (.under baseUrl token)).map arriving ↔
      c.asked = c'.asked) := by
  obtain ⟨r, request⟩ : ∃ r, c.request (.under baseUrl token) = .ok r := ⟨_, Client.request_eq _ c⟩
  obtain ⟨r', request'⟩ : ∃ r, c'.request (.under baseUrl token) = .ok r := ⟨_, Client.request_eq _ c'⟩
  have told : arriving r = arriving r' → c.asked = c'.asked := by
    intro same
    obtain ⟨route, criteria, text⟩ := parts_of_arriving request request' same
    exact Call.asked_eq_of_parts route criteria text
  have built : c.asked = c'.asked → r = r' := by
    intro same
    have equal := request_asked (.under baseUrl token) c
    rw [same, request_asked, request, request'] at equal
    exact (Except.ok.inj equal).symm
  refine ⟨⟨r, request⟩, ?_, ?_⟩
  · rw [request, request']
    exact ⟨fun same => told (congrArg arriving (Except.ok.inj same)), fun same => by rw [built same]⟩
  · rw [request, request']
    exact ⟨fun same => told (Except.ok.inj same), fun same => by rw [built same]⟩

end BoxOffice
