import BoxOffice.Loopback
import BoxOffice.Proofs.Number.Digits
import BoxOffice.Proofs.Template
import BoxOffice.Proofs.Text.Form
import BoxOffice.Proofs.Text.Trim

/-!
# The request of a call names the resource of the call

* `IsOrigin`, `IsBareOrigin` -- a scheme and an authority, and a base URL that is nothing more;
* `IsOrigin.afterAuthority_append`, `ofUri_origin` -- path and query are what follows the origin;
* `Call.path`, `Call.route` -- the path of a call, and the resource that it means; `url_site` -- its URL;
* `ofPath?_path` -- the path names that resource, and `pathId_digits` -- its id is the one of the call;
* `request_eq`, `request_parts` -- the request of a call, and `target_arriving` -- its target;
* `answer_arriving`, `jsonBody_arriving` -- the reply is that of the resource, which gets the body.
-/

namespace BoxOffice

open BoxOffice.Text
open BoxOffice.Number
open BoxOffice.Server (Target Route afterAuthority rooted pathId)

/-! ## 1. Origins -/

/-- A scheme and an authority. -/
def IsOrigin (cs : List Char) : Prop :=
  ∃ scheme authority, cs = scheme ++ ':' :: '/' :: '/' :: authority ∧ scheme ≠ [] ∧ authority ≠ [] ∧
    (':' ∉ scheme ∧ '/' ∉ scheme ∧ '#' ∉ scheme) ∧ '/' ∉ authority ∧ '?' ∉ authority ∧ '#' ∉ authority

/-- **A base URL that is an origin**, up to slashes at its end. -/
def IsBareOrigin (baseUrl : String) : Prop :=
  ∃ origin n, baseUrl.toList = origin ++ List.replicate n '/' ∧ IsOrigin origin

/-- Slashes at the end go, up to a character that is none. -/
theorem dropEndWhile_append (p : Char → Bool) {cs ds : List Char} {c : Char} (hc : p c = false)
    (hd : ∀ d ∈ ds, p d = true) : dropEndWhile p (cs ++ [c] ++ ds) = cs ++ [c] := by
  rw [dropEndWhile_append_of_pos hd, dropEndWhile_concat_of_neg p hc]

namespace IsOrigin

variable {origin : List Char}

/-- An origin ends in a character that is no slash. -/
theorem exists_concat (h : IsOrigin origin) : ∃ cs c, origin = cs ++ [c] ∧ Client.isSlash c = false := by
  obtain ⟨scheme, authority, rfl, _, ne_nil, _, slash, _⟩ := h
  refine ⟨scheme ++ ':' :: '/' :: '/' :: authority.dropLast, authority.getLast ne_nil, ?_, ?_⟩
  · have whole := List.dropLast_concat_getLast ne_nil
    rw [List.append_assoc, List.cons_append, List.cons_append, List.cons_append, whole]
  · rw [Client.isSlash, beq_eq_false_iff_ne]
    exact fun e => slash (e ▸ List.getLast_mem ne_nil)

theorem hash_not_mem (h : IsOrigin origin) : '#' ∉ origin := by
  obtain ⟨scheme, authority, rfl, _, _, word, _, _, hash⟩ := h
  have marks : '#' ∉ [':', '/', '/'] := by decide
  intro mem
  rcases List.mem_append.mp mem with mem | mem
  · exact word.2.2 mem
  · rcases List.mem_append.mp (show '#' ∈ [':', '/', '/'] ++ authority from mem) with mem | mem
    · exact marks mem
    · exact hash mem

/-- **What follows an origin is the path and the query.** -/
theorem afterAuthority_append (h : IsOrigin origin) (rest : List Char) :
    afterAuthority (origin ++ '/' :: rest) = '/' :: rest := by
  obtain ⟨scheme, authority, rfl, some_word, _, word, slash, mark, _⟩ := h
  have cut : cutAt ':' (scheme ++ ':' :: '/' :: '/' :: (authority ++ '/' :: rest)) =
      (scheme, some ('/' :: '/' :: (authority ++ '/' :: rest))) := cutAt_append _ word.1
  have inside : ∀ c ∈ authority, (c != '/' && c != '?') = true := by
    intro c mem
    rw [Bool.and_eq_true, bne_iff_ne, bne_iff_ne]
    exact ⟨fun e => slash (e ▸ mem), fun e => mark (e ▸ mem)⟩
  have path : (authority ++ '/' :: rest).dropWhile (fun c => c != '/' && c != '?') = '/' :: rest :=
    List.dropWhile_append_of_pos inside
  have text : scheme ++ ':' :: '/' :: '/' :: authority ++ '/' :: rest =
      scheme ++ ':' :: '/' :: '/' :: (authority ++ '/' :: rest) := by
    rw [List.append_assoc, List.cons_append, List.cons_append, List.cons_append]
  rw [text]
  unfold afterAuthority
  split
  · next cs e =>
    cases scheme with
    | nil => exact absurd rfl some_word
    | cons c cs =>
      cases e
      exact absurd List.mem_cons_self word.2.1
  · rw [cut]
    exact path

end IsOrigin

/-- **The target of a URI with an origin.** -/
theorem ofUri_origin {origin path query : List Char} (h : IsOrigin origin)
    (hash : '#' ∉ path) (mark : '?' ∉ path) (root : ∃ rest, path = '/' :: rest)
    (hash' : '#' ∉ query) :
    Target.ofUri (String.ofList (origin ++ path)) = ⟨path, ""⟩ ∧
    Target.ofUri (String.ofList (origin ++ path ++ '?' :: query)) = ⟨path, String.ofList query⟩ := by
  obtain ⟨rest, rfl⟩ := root
  have whole : '#' ∉ origin ++ '/' :: rest := by
    rw [List.mem_append, not_or]
    exact ⟨h.hash_not_mem, hash⟩
  have asked : '#' ∉ origin ++ '/' :: rest ++ '?' :: query := by
    rw [List.mem_append, List.mem_cons, not_or, not_or]
    exact ⟨whole, by decide, hash'⟩
  have path_eq : rooted ('/' :: rest) = '/' :: rest := rfl
  refine ⟨?_, ?_⟩
  · rw [Target.ofUri, String.toList_ofList, cutAt_of_not_mem whole, h.afterAuthority_append,
      cutAt_of_not_mem mark]
    rfl
  · have after : afterAuthority (origin ++ '/' :: rest ++ '?' :: query) =
        '/' :: rest ++ '?' :: query := by
      rw [List.append_assoc, List.cons_append, h.afterAuthority_append]
    rw [Target.ofUri, String.toList_ofList, cutAt_of_not_mem asked, after, cutAt_append _ mark]
    rfl

/-! ## 2. Ids -/

theorem mem_intDigits {k : Int} {c : Char} (h : c ∈ intDigits k) : c = '-' ∨ c.isDigit = true := by
  cases k with
  | ofNat n => exact Or.inr (isDigit_of_mem_natDigits h)
  | negSucc n =>
    rcases List.mem_cons.mp h with h | h
    · exact Or.inl h
    · exact Or.inr (isDigit_of_mem_natDigits h)

/-- No other character stands in a written integer. -/
theorem not_mem_intDigits {c : Char} (minus : c ≠ '-') (digit : c.isDigit = false) (k : Int) :
    c ∉ intDigits k := by
  intro h
  rcases mem_intDigits h with h | h
  · exact minus h
  · rw [digit] at h
    cases h

/-- Bytes without a percent sign stand for themselves. -/
theorem Percent.decode_of_not_mem : ∀ {bs : List UInt8}, (0x25 : UInt8) ∉ bs → Percent.decode bs = bs
  | [], _ => by rw [Percent.decode]
  | b :: bs, h => by
    have first : b ≠ 0x25 := fun e => h (e ▸ List.mem_cons_self)
    have rest : (0x25 : UInt8) ∉ bs := fun mem => h (List.mem_cons_of_mem b mem)
    rw [Percent.decode_cons_of_ne first, Percent.decode_of_not_mem rest]

/-- **A written id is the id that it writes.** -/
theorem pathId_digits (id : Int64) : pathId (String.ofList (intDigits id.toInt)) = .ok id := by
  have bytes : (0x25 : UInt8) ∉ Utf8.encode (intDigits id.toInt) := by
    rw [Utf8.encode, List.mem_flatMap]
    rintro ⟨c, mem, h⟩
    have ascii : c.toNat < 0x80 ∧ c.toNat ≠ 0x25 := by
      rcases mem_intDigits mem with rfl | digit
      · decide
      · have range := toNat_of_isDigit digit
        have nine : '9'.toNat = 0x39 := rfl
        have zero : '0'.toNat = 0x30 := rfl
        omega
    rw [Utf8.encodeChar] at h
    simp only [if_pos ascii.1, List.mem_singleton] at h
    have code := congrArg UInt8.toNat h
    rw [Utf8.toNat_ofNat_of_lt (by omega)] at code
    exact ascii.2 code.symm
  have low := id.le_toInt
  have high := id.toInt_lt
  have read : Bounds.int64.read (intDigits id.toInt) = .ok id.toInt :=
    read_intDigits (by simp only [Bounds.int64]; omega) (by simp only [Bounds.int64]; omega)
  rw [pathId, String.toList_ofList, Percent.decode_of_not_mem bytes, Utf8.decode?_encode]
  simp only [read, Int64.ofInt_toInt]

/-! ## 3. Paths -/

/-- The path of segments, with a slash before each. -/
def pathOf (segments : List (List Char)) : List Char := segments.flatMap ('/' :: ·)

theorem pathOf_cons (s : List Char) (segments : List (List Char)) :
    pathOf (s :: segments) = '/' :: (s ++ pathOf segments) := List.flatMap_cons

theorem pathOf_append (xs ys : List (List Char)) : pathOf (xs ++ ys) = pathOf xs ++ pathOf ys :=
  List.flatMap_append

/-- The text may stand between two slashes of a path. -/
def IsSegment (cs : List Char) : Prop := '/' ∉ cs ∧ '?' ∉ cs ∧ '#' ∉ cs

instance (cs : List Char) : Decidable (IsSegment cs) := inferInstanceAs (Decidable (_ ∧ _))

theorem isSegment_intDigits (k : Int) : IsSegment (intDigits k) :=
  ⟨not_mem_intDigits (by decide) rfl k, not_mem_intDigits (by decide) rfl k,
    not_mem_intDigits (by decide) rfl k⟩

/-- **A path is split into its segments.** -/
theorem splitOn_pathOf {segments : List (List Char)} (h : ∀ s ∈ segments, IsSegment s) :
    splitOn '/' (pathOf segments) = [] :: segments := by
  have after : ∀ cs, '/' ∉ cs → splitOn '/' (cs ++ pathOf segments) = cs :: segments := by
    induction segments with
    | nil =>
      intro cs plain
      rw [pathOf, List.flatMap_nil, List.append_nil, splitOn_of_not_mem plain]
    | cons s segments ih =>
      intro cs plain
      have rest := ih (fun s' mem => h s' (List.mem_cons_of_mem s mem)) s (h s List.mem_cons_self).1
      rw [pathOf_cons, splitOn_append _ plain, rest]
  exact after [] List.not_mem_nil

/-- A path has no query and no fragment. -/
theorem not_mem_pathOf {segments : List (List Char)} (h : ∀ s ∈ segments, IsSegment s) :
    '?' ∉ pathOf segments ∧ '#' ∉ pathOf segments := by
  have inside : ∀ c, c ≠ '/' → c ∈ pathOf segments → ∃ s ∈ segments, c ∈ s := by
    intro c ne mem
    obtain ⟨s, hs, mem⟩ := List.mem_flatMap.mp mem
    exact ⟨s, hs, (List.mem_cons.mp mem).resolve_left ne⟩
  refine ⟨fun mem => ?_, fun mem => ?_⟩
  · obtain ⟨s, hs, mem⟩ := inside '?' (by decide) mem
    exact (h s hs).2.1 mem
  · obtain ⟨s, hs, mem⟩ := inside '#' (by decide) mem
    exact (h s hs).2.2 mem

/-! ## 4. The path of a call -/

namespace Client

/-- The last segment of the path of a resource. -/
def Resource.segment : Resource → List Char
  | .location => "location".toList
  | .order => "orders".toList
  | .ticket => "tickets".toList

namespace Call

/-- The segments below those of the resource. -/
def below : Call → List (List Char)
  | .findLocations _ _ | .order _ | .reserve _ => []
  | .findLocation id | .release id => [intDigits id.toInt]
  | .refund id => [intDigits id.toInt, "cancelation".toList]
  | .occupancy _ => ["reservations".toList]

/-- The path of a call. -/
def path (c : Call) : List Char :=
  pathOf ("api".toList :: "v1".toList :: c.resource.segment :: c.below)

/-- The resource that a call means. -/
def route : Call → Route
  | .findLocations _ _ => .locations
  | .findLocation id => .location (String.ofList (intDigits id.toInt))
  | .order _ => .orders
  | .refund id => .refund (String.ofList (intDigits id.toInt))
  | .release id => .ticket (String.ofList (intDigits id.toInt))
  | .occupancy _ => .occupancy
  | .reserve _ => .tickets

/-- What an endpoint has after the path of its resource. -/
def suffix : Call → List Char
  | .findLocations _ _ | .order _ | .reserve _ => []
  | .findLocation id | .release id => intDigits id.toInt
  | .refund id => intDigits id.toInt ++ "/cancelation".toList
  | .occupancy _ => "reservations".toList

end Call

end Client

theorem isSegment_below (c : Client.Call) : ∀ s ∈ c.below, IsSegment s := by
  have digits : ∀ id : Int64, IsSegment (intDigits id.toInt) := fun id => isSegment_intDigits id.toInt
  cases c with
  | findLocations | order | reserve => exact fun s mem => absurd mem List.not_mem_nil
  | findLocation id | release id => exact List.forall_mem_singleton.mpr (digits id)
  | refund id =>
    have last : IsSegment "cancelation".toList := by decide
    exact List.forall_mem_cons.mpr ⟨digits id, List.forall_mem_singleton.mpr last⟩
  | occupancy =>
    have word : IsSegment "reservations".toList := by decide
    exact List.forall_mem_singleton.mpr word

theorem isSegment_of_mem (c : Client.Call) :
    ∀ s ∈ "api".toList :: "v1".toList :: c.resource.segment :: c.below, IsSegment s := by
  have api : IsSegment "api".toList := by decide
  have version : IsSegment "v1".toList := by decide
  have resource : ∀ r : Client.Resource, IsSegment r.segment := fun r => by cases r <;> decide
  exact List.forall_mem_cons.mpr ⟨api, List.forall_mem_cons.mpr
    ⟨version, List.forall_mem_cons.mpr ⟨resource _, isSegment_below c⟩⟩⟩

theorem ofList_intDigits_ne {s : String} (k : Int) (h : s.toList ≠ intDigits k) :
    String.ofList (intDigits k) ≠ s := by
  intro e
  have chars := congrArg String.toList e
  rw [String.toList_ofList] at chars
  exact h chars.symm

theorem ofLast?_digits (route : String → Route) (k : Int) :
    Route.ofLast? route (String.ofList (intDigits k)) = some (route (String.ofList (intDigits k))) :=
  if_neg (ofList_intDigits_ne (s := "") k fun e => intDigits_ne_nil k e.symm)

/-- A word that is not the occupancy is an id. -/
theorem ofSegments?_ticket {id : String} (h : id ≠ "reservations") :
    Route.ofSegments? ["tickets", id] = Route.ofLast? .ticket id := by
  unfold Route.ofSegments?
  split <;> simp_all

theorem ofSegments?_refund (id : String) :
    Route.ofSegments? ["tickets", id, "cancelation"] = some (.refund id) := by
  unfold Route.ofSegments?
  split <;> simp_all

/-- **The path of a call names its resource.** -/
theorem ofPath?_path (c : Client.Call) : Route.ofPath? c.path = some c.route := by
  rw [Route.ofPath?, Client.Call.path, splitOn_pathOf (isSegment_of_mem c)]
  cases c with
  | findLocations | order | reserve | occupancy => rfl
  | findLocation id => exact ofLast?_digits .location id.toInt
  | release id =>
    have word : String.ofList (intDigits id.toInt) ≠ "reservations" := ofList_intDigits_ne _ fun e =>
      not_mem_intDigits (by decide) rfl id.toInt (e ▸ show 'r' ∈ "reservations".toList by decide)
    exact (ofSegments?_ticket word).trans (ofLast?_digits .ticket id.toInt)
  | refund id => exact ofSegments?_refund (String.ofList (intDigits id.toInt))

/-! ## 5. The URL of a call -/

namespace Client

/-- A template that is the placeholder of the id and what follows it. -/
theorem renderChars_id (id : Int64) {cs after : List Char}
    (h : placeholder? cs = some ([], "id", after)) (plain : placeholder? after = none) :
    renderChars (Call.idArgument id) cs = .ok (intDigits id.toInt ++ after) := by
  have given : (Call.idArgument id).lookup "id" = some (String.ofList (intDigits id.toInt)) := rfl
  rw [renderChars_of_some h given, renderChars_of_none _ plain, String.toList_ofList]
  rfl

theorem renderPath_of_chars {template : String} {arguments : List (String × String)}
    {cs : List Char} (h : renderChars arguments template.toList = .ok cs) :
    renderPath template arguments = .ok (String.ofList cs) := by
  rw [renderPath, h]

/-- **The path of an endpoint is what follows the path of the resource.** -/
theorem renderPath_endpoint (c : Call) :
    renderPath c.endpoint.path c.arguments = .ok (String.ofList c.suffix) := by
  cases c with
  | findLocations | order | reserve => exact renderPath_of_chars (renderChars_of_none _ rfl)
  | occupancy =>
    have plain : placeholder? "reservations".toList = none := by decide
    exact renderPath_of_chars (renderChars_of_none _ plain)
  | findLocation id | release id =>
    have rendered := renderChars_id id (show placeholder? "{id}".toList = _ from rfl) rfl
    rw [List.append_nil] at rendered
    exact renderPath_of_chars rendered
  | refund id =>
    have found : placeholder? "{id}/cancelation".toList =
      some ([], "id", "/cancelation".toList) := by decide
    exact renderPath_of_chars (renderChars_id id found (by decide))

/-- The base URL without slashes at its end. -/
def stem (baseUrl : String) : List Char := dropEndWhile isSlash baseUrl.toList

/-- What is left of a bare base URL is its origin. -/
theorem isOrigin_stem {baseUrl : String} (h : IsBareOrigin baseUrl) : IsOrigin (stem baseUrl) := by
  obtain ⟨origin, n, text, isOrigin⟩ := h
  obtain ⟨cs, c, rfl, last⟩ := isOrigin.exists_concat
  have left : stem baseUrl = cs ++ [c] := by
    rw [stem, text]
    exact dropEndWhile_append isSlash last fun d mem => by rw [List.eq_of_mem_replicate mem]; rfl
  rw [left]
  exact isOrigin

/-- The root of a resource. -/
theorem root_site (baseUrl : String) (token : Option String) (r : Resource) :
    (r.site baseUrl token).root = String.ofList (stem baseUrl ++ '/' :: r.basePath.toList) := by
  have path : trimBoth isSlash r.basePath.toList = r.basePath.toList := by cases r <;> decide
  have root : (Site.under baseUrl r.basePath).root =
      String.ofList (stem baseUrl ++ '/' :: r.basePath.toList) := by
    rw [Site.under, path]
    rfl
  cases token with
  | none => exact root
  | some t => exact root

/-- The path of a resource. -/
theorem pathOf_resource (r : Resource) :
    pathOf ["api".toList, "v1".toList, r.segment] = '/' :: r.basePath.toList := by
  cases r <;> decide

/-- The path of a call has a slash between that of its resource and what follows it. -/
theorem pathOf_below (c : Call) : (c.suffix = [] ∧ pathOf c.below = []) ∨
    (c.suffix ≠ [] ∧ pathOf c.below = '/' :: c.suffix) := by
  have one : ∀ s, pathOf [s] = '/' :: s := by
    intro s
    rw [pathOf_cons, pathOf, List.flatMap_nil, List.append_nil]
  cases c with
  | findLocations | order | reserve => exact Or.inl ⟨rfl, rfl⟩
  | findLocation id | release id => exact Or.inr ⟨intDigits_ne_nil id.toInt, one _⟩
  | refund id =>
    have last : pathOf ["cancelation".toList] = "/cancelation".toList := by decide
    refine Or.inr ⟨List.append_ne_nil_of_left_ne_nil (intDigits_ne_nil id.toInt) _, ?_⟩
    rw [Call.below, pathOf_cons, last]
    rfl
  | occupancy =>
    have some_letter : "reservations".toList ≠ [] := by decide
    exact Or.inr ⟨some_letter, one _⟩

/-- The site of the resource of a call. -/
theorem get_under (baseUrl : String) (token : Option String) (r : Resource) :
    (Sites.under baseUrl token).get r = r.site baseUrl token := by
  cases r <;> rfl

/-- **The URL of a call is the base and the path of the call**, whatever the base URL is. -/
theorem url_site (baseUrl : String) (token : Option String) (c : Call) :
    ((Sites.under baseUrl token).get c.resource).url (String.ofList c.suffix) =
      String.ofList (stem baseUrl ++ c.path) := by
  have path : c.path = '/' :: c.resource.basePath.toList ++ pathOf c.below := by
    rw [← pathOf_resource, ← pathOf_append]
    rfl
  rw [get_under, Site.url, root_site, path]
  rcases pathOf_below c with ⟨none, below⟩ | ⟨some, below⟩
  · rw [none, below, List.append_nil]
    rfl
  · have full : (String.ofList c.suffix).isEmpty = false := by
      rw [Bool.eq_false_iff, Ne, String.isEmpty_iff, String.ofList_eq_empty_iff]
      exact some
    have slash : "/" = String.ofList ['/'] := by decide
    rw [full, below, slash, if_neg Bool.false_ne_true, ← String.ofList_append, ← String.ofList_append,
      List.append_assoc, List.append_assoc, List.singleton_append]

/-! ## 6. The request of a call -/

/-- The text of a call's body. -/
def Call.text? (c : Call) : Option String :=
  match c.body with
  | some (.ok v) => some v.write
  | _ => none

/-- **Every call has a request**: no argument is missing, and every body can be written. -/
theorem request_eq (sites : Sites) (c : Call) : c.request sites =
    .ok ⟨c.endpoint.method, (sites.get c.resource).url (String.ofList c.suffix), c.criteria.pairs,
      (sites.get c.resource).requestHeaders c.endpoint.response c.text?.isSome, c.text?⟩ := by
  rw [Call.request, Site.request, renderPath_endpoint]
  cases c <;> rfl

/-- The parts of a call's request. -/
theorem request_parts {baseUrl : String} {token : Option String} {c : Call} {r : Request}
    (request : c.request (.under baseUrl token) = .ok r) :
    r.method = c.endpoint.method ∧ r.url = String.ofList (stem baseUrl ++ c.path) ∧
      r.query = c.criteria.pairs ∧
      r.headers = (c.resource.site baseUrl token).requestHeaders c.endpoint.response c.text?.isSome ∧
      r.body = c.text? := by
  rw [request_eq, url_site, get_under] at request
  cases request
  exact ⟨rfl, rfl, rfl, rfl, rfl⟩

theorem method_eq (c : Call) : c.endpoint.method.name = c.route.method := by
  cases c <;> rfl

end Client

/-! ## 7. The target of a call -/

/-- **The request of a call arrives at the resource of the call**, with its criteria as query. -/
theorem ofUri_requestUri {origin : List Char} (h : IsOrigin origin) {c : Client.Call}
    {r : Client.Request} (url : r.url = String.ofList (origin ++ c.path)) :
    Target.ofUri (requestUri r) = ⟨c.path, Form.encode r.query⟩ := by
  have root : ∃ rest, c.path = '/' :: rest := ⟨_, pathOf_cons _ _⟩
  obtain ⟨mark, hash⟩ := not_mem_pathOf (isSegment_of_mem c)
  unfold requestUri
  split
  · next none =>
    rw [url, none]
    exact (ofUri_origin h hash mark root (Form.hash_not_mem_encodeChars [])).1
  · have question : "?" = String.ofList ['?'] := by decide
    have whole : r.url ++ "?" ++ Form.encode r.query =
        String.ofList (origin ++ c.path ++ '?' :: Form.encodeChars r.query) := by
      rw [url, question, Form.encode, ← String.ofList_append, ← String.ofList_append,
        List.append_assoc, List.singleton_append]
    rw [whole]
    exact (ofUri_origin h hash mark root (Form.hash_not_mem_encodeChars _)).2

/-- A request with the method of the resource that its target names reaches that resource. -/
theorem answer_of_route {s : Store} {r : Server.Request} {target : Target} {route : Route}
    (uri : Target.ofUri r.uri = target) (named : Route.ofPath? target.path = some route)
    (method : r.method = route.method) :
    Server.answer s r = Server.runRoute s route target.query r := by
  have accepted : route.accepts r.method = true := by
    rw [Route.accepts, method, beq_self_eq_true, Bool.true_or]
  have head : r.method ≠ "HEAD" := by
    rw [method]
    cases route <;> simp only [Route.method] <;> decide
  rw [Server.answer, uri]
  simp only [named, accepted, if_true, if_neg head]

variable {baseUrl : String} {token : Option String} {c : Client.Call} {r : Client.Request}

/-- The request of a call arrives at the path of the call, with its criteria as query. -/
theorem target_arriving (base : IsBareOrigin baseUrl)
    (request : c.request (.under baseUrl token) = .ok r) :
    Target.ofUri (arriving r).uri = ⟨c.path, Form.encode c.criteria.pairs⟩ := by
  obtain ⟨_, url, query, _⟩ := Client.request_parts request
  rw [← query]
  exact ofUri_requestUri (Client.isOrigin_stem base) url

/-- The request meets the resource of the call, with its method. -/
def Client.Call.Reaches (c : Client.Call) (r : Client.Request) : Prop :=
  Route.ofPath? (Target.ofUri (arriving r).uri).path = some c.route ∧
    (arriving r).method = c.route.method

/-- **The request of a call reaches the resource of the call.** -/
theorem reaches_arriving (base : IsBareOrigin baseUrl)
    (request : c.request (.under baseUrl token) = .ok r) : c.Reaches r := by
  have target := target_arriving base request
  obtain ⟨method, _⟩ := Client.request_parts request
  refine ⟨?_, ?_⟩
  · rw [target]
    exact ofPath?_path c
  · rw [arriving, method]
    exact Client.method_eq c

/-- **What the box office answers to a call**: the reply of the call's resource. -/
theorem answer_arriving (base : IsBareOrigin baseUrl)
    (request : c.request (.under baseUrl token) = .ok r) (s : Store) :
    Server.answer s (arriving r) =
      Server.runRoute s c.route (Form.encode c.criteria.pairs) (arriving r) := by
  have target := target_arriving base request
  obtain ⟨named, method⟩ := reaches_arriving base request
  rw [target] at named
  have reached := answer_of_route (s := s) target named method
  exact reached

/-! ## 8. The body of a call -/

theorem firstNamed_cons_of_neg {name n : String} (h : sameName n name = false) (v : String)
    (ps : List (String × String)) : firstNamed name ((n, v) :: ps) = firstNamed name ps := by
  rw [firstNamed, List.find?_cons]
  simp only [h]
  rfl

theorem firstNamed_cons_self (name v : String) (ps : List (String × String)) :
    firstNamed name ((name, v) :: ps) = some v := by
  rw [firstNamed, List.find?_cons]
  simp only [sameName_self]
  rfl

/-- The request of a call with a body says that the body is JSON. -/
theorem contentType_arriving (baseUrl : String) (token : Option String) (r : Client.Resource) :
    firstNamed "content-type" ((r.site baseUrl token).requestHeaders .json true) =
      some "application/json" := by
  have accept : sameName "accept" "content-type" = false := by decide
  have authorization : sameName "authorization" "content-type" = false := by decide
  cases token with
  | none =>
    show firstNamed "content-type" [("accept", _), ("content-type", _)] = _
    rw [firstNamed_cons_of_neg accept, firstNamed_cons_self]
  | some t =>
    show firstNamed "content-type"
      [("authorization", "Bearer " ++ t), ("accept", _), ("content-type", _)] = _
    rw [firstNamed_cons_of_neg authorization, firstNamed_cons_of_neg accept, firstNamed_cons_self]

theorem isJson_applicationJson : Server.isJson "application/json" = true := by
  decide

/-- **The body of a call is read**, if it is no longer than a body may be. -/
theorem jsonBody_arriving {α : Type} (request : c.request (.under baseUrl token) = .ok r)
    {v : Json.Value} (body : c.body = some (.ok v)) (short : v.write.utf8ByteSize ≤ Server.bodyLimit)
    (reader : Json.Reader α) :
    (arriving r).jsonBody reader = (Json.Reader.read reader v.write).mapError .body := by
  obtain ⟨_, _, _, headers, written⟩ := Client.request_parts request
  have text : c.text? = some v.write := by rw [Client.Call.text?, body]
  have json : c.endpoint.response = .json := by
    cases c with
    | release => cases body
    | _ => rfl
  have sent : (arriving r).body = v.write := by rw [arriving, written, text]; rfl
  have type : firstNamed "content-type" (arriving r).headers = some "application/json" := by
    rw [arriving, headers, text, json]
    exact contentType_arriving baseUrl token c.resource
  rw [Server.Request.jsonBody, type, sent, Option.any_some, if_pos isJson_applicationJson, if_pos short]

end BoxOffice
