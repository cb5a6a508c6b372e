import BoxOffice.Client.Session
import BoxOffice.Server.Answer
import BoxOffice.Text.Form

/-!
# Client and box office in one

`loopback` is a transport whose server is a store: the criteria of a request go form-encoded behind
the question mark of its URL, the box office answers it, and status and body of the reply are the
response.
-/

namespace BoxOffice

/-- The URI of a client's request: its criteria, if there are any, behind a question mark. -/
def requestUri (r : Client.Request) : String :=
  match r.query with
  | [] => r.url
  | pairs => r.url ++ "?" ++ Form.encode pairs

/-- A client's request as it arrives at the box office. -/
def arriving (r : Client.Request) : Server.Request :=
  ⟨r.method.name, requestUri r, r.headers, r.body.getD ""⟩

/-- A reply of the box office as it comes back to the client. -/
def returning (r : Server.Reply) : Client.Response := ⟨.ofNat r.status, [], r.body⟩

/-- **A transport to a box office.** -/
def loopback : Client.Transport Store :=
  ⟨fun r s =>
    let (reply, s) := Server.answer s (arriving r)
    (.ok (returning reply), s),
   fun _ _ => []⟩

end BoxOffice
