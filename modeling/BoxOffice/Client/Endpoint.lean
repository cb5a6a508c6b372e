import BoxOffice.Client.Failure
import BoxOffice.Text.Trim

/-!
# Endpoints

* `renderPath template arguments` -- a path template with each `{name}` replaced by the first argument
  of that name. An opening brace without a closing one after it stands for itself, with all that
  follows; arguments are put in as they are and not looked at again;
* `Endpoint` -- an operation as data: its name, method, path template, and what a response carries.
-/

namespace BoxOffice.Client

open BoxOffice.Text

/-! ## 1. Path templates -/

theorem cutAt_snd_length_lt {sep : Char} : ∀ {cs rest : List Char},
    (cutAt sep cs).2 = some rest → rest.length < cs.length
  | [], _, h => by cases h
  | c :: cs, rest, h => by
    unfold cutAt at h
    split at h
    · cases h
      exact Nat.lt_succ_self _
    · exact Nat.lt_succ_of_lt (cutAt_snd_length_lt h)

/-- The first placeholder of a template: what stands before it, its name, what follows it. -/
def placeholder? (cs : List Char) : Option (List Char × String × List Char) :=
  match cutAt '{' cs with
  | (before, some after) =>
    match cutAt '}' after with
    | (name, some rest) => some (before, String.ofList name, rest)
    | (_, none) => none
  | (_, none) => none

theorem placeholder?_length_lt {cs before rest : List Char} {name : String}
    (h : placeholder? cs = some (before, name, rest)) : rest.length < cs.length := by
  unfold placeholder? at h
  split at h
  · next after h1 =>
    split at h
    · next rest' h2 =>
      cases h
      have k1 := cutAt_snd_length_lt (congrArg Prod.snd h1)
      have k2 := cutAt_snd_length_lt (congrArg Prod.snd h2)
      exact Nat.lt_trans k2 k1
    · cases h
  · cases h

/-- The template as characters, its placeholders replaced; or the name of the first placeholder
    without an argument. -/
def renderChars (arguments : List (String × String)) (cs : List Char) :
    Except String (List Char) :=
  match _h : placeholder? cs with
  | none => .ok cs
  | some (before, name, rest) =>
    match arguments.lookup name with
    | none => .error name
    | some value => (renderChars arguments rest).map (before ++ value.toList ++ ·)
termination_by cs.length
decreasing_by exact placeholder?_length_lt _h

/-- **A path template with its placeholders replaced.** -/
def renderPath (template : String) (arguments : List (String × String)) : Except Failure String :=
  match renderChars arguments template.toList with
  | .ok cs => .ok (String.ofList cs)
  | .error name => .error (.missingArgument name)

/-! ## 2. Endpoints -/

/-- The methods of requests. -/
inductive Method where
  | get
  | post
  | put
  | patch
  | delete
  deriving DecidableEq, Repr

/-- The name of a method. -/
def Method.name : Method → String
  | .get => "GET"
  | .post => "POST"
  | .put => "PUT"
  | .patch => "PATCH"
  | .delete => "DELETE"

/-- What a successful response carries. -/
inductive ResponseKind where
  | json
  | empty
  deriving DecidableEq, Repr

/-- An operation as data. -/
structure Endpoint where
  name : String
  method : Method
  /-- relative to the path of the resource -/
  path : String
  response : ResponseKind
  deriving DecidableEq, Repr

/-- The kinds of resources, each under a path of its own. -/
inductive Resource where
  | location
  | order
  | ticket
  deriving DecidableEq, Repr

/-- The path of a resource. -/
def Resource.basePath : Resource → String
  | .location => "api/v1/location"
  | .order => "api/v1/orders"
  | .ticket => "api/v1/tickets"

namespace Endpoint

/-- A page of locations. -/
def findByFilters : Endpoint := ⟨"findByFilters", .get, "", .json⟩

/-- One location. -/
def findById : Endpoint := ⟨"findById", .get, "{id}", .json⟩

/-- Paying for reserved tickets. -/
def placeOrder : Endpoint := ⟨"placeOrder", .post, "", .json⟩

/-- Giving a purchased ticket back. -/
def cancelAndRefundTicket : Endpoint :=
  ⟨"cancelAndRefundTicket", .put, "{id}/cancelation", .json⟩

/-- Giving a reserved ticket back. -/
def cancelTicketReservation : Endpoint := ⟨"cancelTicketReservation", .delete, "{id}", .empty⟩

/-- The occupancy of a show or of a seating plan. -/
def getReservationsForSeatingPlan : Endpoint :=
  ⟨"getReservationsForSeatingPlan", .get, "reservations", .json⟩

/-- Reserving seats. -/
def reserveTickets : Endpoint := ⟨"reserveTickets", .post, "", .json⟩

/-- All endpoints with their resources. -/
def all : List (Resource × Endpoint) :=
  [(.location, findByFilters), (.location, findById), (.order, placeOrder),
   (.ticket, cancelAndRefundTicket), (.ticket, cancelTicketReservation),
   (.ticket, getReservationsForSeatingPlan), (.ticket, reserveTickets)]

end Endpoint

end BoxOffice.Client
