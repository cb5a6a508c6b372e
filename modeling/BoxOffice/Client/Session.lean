import BoxOffice.Client.Call

/-!
# Sessions

A session is a run of calls over a `Transport`, which turns a request into a response or fails.
Each call is built, sent and read, with nothing in between.

* `Sites.dispatch` -- one call; `Sites.run` -- calls in their order;
* `scripted` -- a transport that gives prepared outcomes, one after the other;
* `unreachable` -- a transport to a server that never answers;
* `Event` -- what is noted on the way: the start of a session, each call, each sending.
-/

namespace BoxOffice.Client

/-! ## 1. Events -/

/-- What is noted on the way. `inside` is the operation during which it happens. -/
inductive Event where
  /-- a session begins -/
  | created (baseUrl : String) (authenticated : Bool)
  /-- a call begins -/
  | entered (operation : String)
  /-- a request goes out over the network -/
  | sending (inside : Option String) (method : Method) (criteria : Nat)
  /-- no response came back -/
  | failed (inside : Option String)
  deriving DecidableEq, Repr

/-! ## 2. Transports -/

/-- The way from requests to responses, with a state of its own. -/
structure Transport (σ : Type) where
  /-- one exchange -/
  exchange : Request → σ → Except Failure Response × σ
  /-- what is noted of an exchange -/
  notes : Option String → Request → List Event

/-- A prepared outcome of an exchange: a response, or the text of a failure. -/
abbrev Prepared := Except String Response

/-- The next prepared outcome. -/
def nextPrepared : List Prepared → Except Failure Response × List Prepared
  | [] => (.error (.transport "script exhausted"), [])
  | .ok r :: rest => (.ok r, rest)
  | .error why :: rest => (.error (.transport why), rest)

/-- A transport that gives prepared outcomes, whatever is sent. -/
def scripted : Transport (List Prepared) := ⟨fun _ => nextPrepared, fun _ _ => []⟩

/-- What is noted of a request that nobody answers. -/
def unansweredNotes (inside : Option String) (r : Request) : List Event :=
  [.sending inside r.method r.query.length, .failed inside]

/-- A transport to a server that never answers, for the reason given. -/
def unreachable (why : String) : Transport Unit :=
  ⟨fun _ s => (.error (.transport why), s), unansweredNotes⟩

/-! ## 3. Calls over a transport -/

/-- What became of a call. -/
structure Outcome where
  operation : String
  /-- the requests sent, at most one -/
  sent : List Request
  result : Except Failure Answer
  events : List Event

/-- **One call over a transport.** -/
def Sites.dispatch {σ : Type} (sites : Sites) (t : Transport σ) (c : Call) (s : σ) :
    Outcome × σ :=
  let operation := c.endpoint.name
  match c.request sites with
  | .error f => (⟨operation, [], .error f, [.entered operation]⟩, s)
  | .ok r =>
    let (response, s) := t.exchange r s
    (⟨operation, [r], response >>= c.read, .entered operation :: t.notes (some operation) r⟩, s)

/-- **Calls over a transport**, in their order. -/
def Sites.run {σ : Type} (sites : Sites) (t : Transport σ) : List Call → σ → List Outcome × σ
  | [], s => ([], s)
  | c :: cs, s =>
    let (o, s) := sites.dispatch t c s
    let (os, s) := sites.run t cs s
    (o :: os, s)

/-- Calls in two parts are the calls of the first and then those of the second. -/
theorem Sites.run_append {σ : Type} (sites : Sites) (t : Transport σ) (ds : List Call) :
    ∀ (cs : List Call) (s : σ), sites.run t (cs ++ ds) s =
      ((sites.run t cs s).1 ++ (sites.run t ds (sites.run t cs s).2).1,
       (sites.run t ds (sites.run t cs s).2).2)
  | [], _ => rfl
  | c :: cs, s => by
    simp only [List.cons_append, Sites.run]
    rw [Sites.run_append sites t ds cs]

end BoxOffice.Client
