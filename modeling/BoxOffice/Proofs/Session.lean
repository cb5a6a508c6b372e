import BoxOffice.Client.Settings
import BoxOffice.Proofs.Addressing

/-!
# One exchange and one result for each call

A session has no memory: it sends the request of each call once, in order, and the result of a call is what
the outcome of its own exchange means for it.

* `Transport.recorded` -- a transport that keeps the requests it is given;
* `dispatch_eq` -- one call makes one exchange, and its result is what the client reads off the outcome;
  `run_recorded` -- so over any transport the requests of a run are those of its calls;
* `outcomeAt`, `run_scripted_eq` -- over prepared outcomes, the `i`-th call meets the `i`-th outcome;
* `Means`, `means_read` -- what an outcome means for a call;
* `one_exchange_per_call` -- all of this for every session, and for sessions in two parts.
-/

namespace BoxOffice.Client

/-- The sites that a client with these settings calls. -/
def Settings.sites (s : Settings) : Sites := .under s.baseUrl s.token

/-! ## 1. The requests of a run -/

/-- The transport with a record of the requests that it is given, in order. -/
def Transport.recorded {σ : Type} (t : Transport σ) : Transport (List Request × σ) :=
  ⟨fun r (record, s) => ((t.exchange r s).1, record ++ [r], (t.exchange r s).2), t.notes⟩

section Runs

variable {σ : Type} (sites : Sites) (t : Transport σ)

/-- **One call makes one exchange**, with its request, and reads the outcome. -/
theorem dispatch_eq (c : Call) (s : σ) : ∃ r, c.request sites = .ok r ∧
    sites.dispatch t c s =
      (⟨c.endpoint.name, [r], (t.exchange r s).1 >>= c.read,
        .entered c.endpoint.name :: t.notes (some c.endpoint.name) r⟩, (t.exchange r s).2) := by
  have request := request_eq sites c
  exact ⟨_, request, by rw [Sites.dispatch, request]⟩

theorem run_cons (c : Call) (cs : List Call) (s : σ) : sites.run t (c :: cs) s =
    ((sites.dispatch t c s).1 :: (sites.run t cs (sites.dispatch t c s).2).1,
      (sites.run t cs (sites.dispatch t c s).2).2) := rfl

/-- A record keeps the request of a call, and changes nothing else. -/
theorem dispatch_recorded (c : Call) (record : List Request) (s : σ) :
    ∃ r, c.request sites = .ok r ∧ sites.dispatch t.recorded c (record, s) =
      ((sites.dispatch t c s).1, record ++ [r], (sites.dispatch t c s).2) := by
  obtain ⟨r, request, plain⟩ := dispatch_eq sites t c s
  obtain ⟨r', request', kept⟩ := dispatch_eq sites t.recorded c (record, s)
  cases Except.ok.inj (request.symm.trans request')
  exact ⟨r, request, by rw [kept, plain]; rfl⟩

/-- **The requests of a run are those of its calls, in order**, and keeping a record of them changes
    nothing else. -/
theorem run_recorded : ∀ (cs : List Call) (record : List Request) (s : σ), ∃ rs : List Request,
    rs.map .ok = cs.map (·.request sites) ∧
    sites.run t.recorded cs (record, s) = ((sites.run t cs s).1, record ++ rs, (sites.run t cs s).2)
  | [], record, s => ⟨[], rfl, by rw [List.append_nil]; rfl⟩
  | c :: cs, record, s => by
    obtain ⟨r, request, first⟩ := dispatch_recorded sites t c record s
    obtain ⟨rs, requests, rest⟩ := run_recorded cs (record ++ [r]) (sites.dispatch t c s).2
    refine ⟨r :: rs, ?_, ?_⟩
    · rw [List.map_cons, List.map_cons, request, requests]
    · rw [run_cons, run_cons, first, rest, List.append_assoc, List.singleton_append]

end Runs

/-! ## 2. Prepared outcomes -/

/-- What comes of the `i`-th exchange over prepared outcomes: beyond the last one, a failure. -/
def outcomeAt (script : List Prepared) (i : Nat) : Except Failure Response :=
  match script[i]? with
  | some (.ok r) => .ok r
  | some (.error why) => .error (.transport why)
  | none => .error (.transport "script exhausted")

theorem nextPrepared_eq (script : List Prepared) :
    nextPrepared script = (outcomeAt script 0, script.drop 1) := by
  rcases script with _ | ⟨_ | _, rest⟩ <;> rfl

theorem outcomeAt_drop (script : List Prepared) (i : Nat) :
    outcomeAt (script.drop 1) i = outcomeAt script (i + 1) := by
  rw [outcomeAt, outcomeAt, List.getElem?_drop, Nat.add_comm]

/-- **The `i`-th call meets the `i`-th outcome**, and each call uses up one. -/
theorem run_scripted_eq (sites : Sites) : ∀ (cs : List Call) (script : List Prepared),
    (sites.run scripted cs script).1.map (·.result) =
        cs.mapIdx (fun i c => outcomeAt script i >>= c.read) ∧
      (sites.run scripted cs script).2 = script.drop cs.length
  | [], script => ⟨rfl, List.drop_zero.symm⟩
  | c :: cs, script => by
    obtain ⟨r, _, first⟩ := dispatch_eq sites scripted c script
    have outcome : scripted.exchange r script = (outcomeAt script 0, script.drop 1) :=
      nextPrepared_eq script
    obtain ⟨results, left⟩ := run_scripted_eq sites cs (script.drop 1)
    rw [run_cons, first, outcome]
    refine ⟨?_, ?_⟩
    · rw [List.map_cons, results, List.mapIdx_cons]
      simp only [outcomeAt_drop]
    · rw [left, List.drop_drop, List.length_cons, Nat.add_comm]

/-! ## 3. What an outcome means -/

/-- What the body of a successful response says, for a release nothing. -/
def Call.decode (c : Call) (body : String) : Except Json.Problem Answer :=
  match c with
  | .findLocations _ _ => (Json.Reader.read (page location) body).map .locations
  | .findLocation _ => (Json.Reader.read location body).map .location
  | .order _ | .refund _ => (Json.Reader.read invoice body).map .invoice
  | .release _ => .ok .nothing
  | .occupancy _ => (Json.Reader.read (Json.list seating) body).map .seatings
  | .reserve _ => (Json.Reader.read (Json.list ticket) body).map .tickets

/-- **What the outcome of an exchange means for a call.** -/
inductive Means (c : Call) : Except Failure Response → Except Failure Answer → Prop where
  /-- no response came back -/
  | failed (f : Failure) : Means c (.error f) (.error f)
  | notFound {r : Response} (status : r.status.toNat = 404) : Means c (.ok r) (.error .notFound)
  | refused {r : Response} (outside : ¬ (200 ≤ r.status.toNat ∧ r.status.toNat ≤ 299))
      (other : r.status.toNat ≠ 404) : Means c (.ok r) (.error (.status r.status r.body))
  | answered {r : Response} {a : Answer} (inside : 200 ≤ r.status.toNat ∧ r.status.toNat ≤ 299)
      (decoded : c.decode r.body = .ok a) : Means c (.ok r) (.ok a)
  | unreadable {r : Response} {p : Json.Problem}
      (inside : 200 ≤ r.status.toNat ∧ r.status.toNat ≤ 299) (decoded : c.decode r.body = .error p) :
      Means c (.ok r) (.error (.unreadable p.fault.message))

/-- A response is checked for success first, then its body is read. -/
theorem read_eq (c : Call) (r : Response) : c.read r =
    (r.check >>= fun _ => (c.decode r.body).mapError fun p => .unreadable p.fault.message) := by
  have json : ∀ {α : Type} (reader : Json.Reader α) (answer : α → Answer),
      (r.json reader).map answer = (r.check >>= fun _ =>
        ((Json.Reader.read reader r.body).map answer).mapError fun p => .unreadable p.fault.message) := by
    intro α reader answer
    rw [Response.json]
    cases r.check with
    | error f => rfl
    | ok _ => cases Json.Reader.read reader r.body <;> rfl
  cases c with
  | release id =>
    show r.check.map _ = _
    cases r.check <;> rfl
  | _ => exact json _ _

theorem isSuccess_iff (r : Response) :
    r.isSuccess = true ↔ 200 ≤ r.status.toNat ∧ r.status.toNat ≤ 299 := by
  rw [Response.isSuccess, Bool.and_eq_true, decide_eq_true_iff, decide_eq_true_iff]
  omega

/-- **The client reads off an outcome what it means.** -/
theorem means_read (c : Call) (outcome : Except Failure Response) :
    Means c outcome (outcome >>= c.read) := by
  cases outcome with
  | error f => exact .failed f
  | ok r =>
    show Means c (.ok r) (c.read r)
    rw [read_eq, Response.check]
    by_cases inside : r.isSuccess = true
    · rw [if_pos inside]
      have inside := (isSuccess_iff r).mp inside
      show Means c (.ok r) ((c.decode r.body).mapError _)
      cases decoded : c.decode r.body with
      | ok a => exact .answered inside decoded
      | error p => exact .unreadable inside decoded
    · rw [if_neg inside]
      by_cases status : r.status = 404
      · rw [if_pos status]
        exact .notFound (by rw [status]; rfl)
      · rw [if_neg status]
        exact .refused (fun h => inside ((isSuccess_iff r).mpr h))
          fun h => status (UInt16.toNat_inj.mp h)

/-! ## 4. Sessions -/

/-- **One exchange and one result for each call**: whatever the settings, the calls and the prepared
    outcomes are, every call has a request; the requests sent are those of the calls, in order; one outcome
    is used up for each; the `i`-th result is what the `i`-th outcome means for the `i`-th call; and calls
    in two parts are the first part, and then the second on what is left of the outcomes. -/
theorem one_exchange_per_call (settings : Settings) (cs ds : List Call) (script : List Prepared) :
    (∀ c : Call, ∃ r, c.request settings.sites = .ok r) ∧
    (∃ requests : List Request, requests.map .ok = cs.map (·.request settings.sites) ∧
      settings.sites.run scripted.recorded cs ([], script) =
        ((settings.sites.run scripted cs script).1, requests, script.drop cs.length)) ∧
    (settings.sites.run scripted cs script).1.map (·.result) =
      cs.mapIdx (fun i c => outcomeAt script i >>= c.read) ∧
    (∀ (c : Call) (outcome : Except Failure Response), Means c outcome (outcome >>= c.read)) ∧
    settings.sites.run scripted (cs ++ ds) script =
      ((settings.sites.run scripted cs script).1
          ++ (settings.sites.run scripted ds (script.drop cs.length)).1,
        (script.drop cs.length).drop ds.length) := by
  obtain ⟨results, left⟩ := run_scripted_eq settings.sites cs script
  obtain ⟨_, left'⟩ := run_scripted_eq settings.sites ds (script.drop cs.length)
  obtain ⟨requests, built, recorded⟩ := run_recorded settings.sites scripted cs [] script
  rw [List.nil_append, left] at recorded
  refine ⟨fun c => ⟨_, request_eq _ c⟩, ⟨requests, built, recorded⟩, results, means_read, ?_⟩
  rw [Sites.run_append, left, left']

end BoxOffice.Client
