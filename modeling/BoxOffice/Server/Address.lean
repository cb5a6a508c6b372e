import BoxOffice.Number.Bounded
import BoxOffice.Text.Trim

/-!
# The address of the server

The server listens on the local host, on the port that a variable gives, 3000 if it is unset.

* `address port` -- host and port as text, `addressOf given` the same for what the variable holds;
* `port? address` -- the port behind the last colon of an address, if it is one.
-/

namespace BoxOffice.Server

/-- The variable that gives the port. -/
def portVariable : String := "PORT"

/-- The port if none is given. -/
def defaultPort : String := "3000"

/-- The address of a port given as text. -/
def address (port : String) : String := "127.0.0.1:" ++ port

/-- The address for a variable that may be unset. -/
def addressOf (given : Option String) : String := address (given.getD defaultPort)

/-- What stands behind the last colon of a text. -/
def afterLastColon (s : String) : List Char :=
  (s.toList.reverse.takeWhile (· != ':')).reverse

/-- **The port of an address**, within 16 bits. -/
def port? (address : String) : Option Nat :=
  match Number.Bounds.uint16.read (afterLastColon address) with
  | .ok n => some n.toNat
  | .error _ => none

/-- What the server says when it listens. -/
def listening (address : String) : String := "listening on " ++ address

/-- What the server says when its address has no port. -/
def badPort : String :=
  r#"Error: Error { kind: InvalidInput, message: "invalid port value" }"#

end BoxOffice.Server
