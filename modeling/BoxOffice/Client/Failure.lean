import BoxOffice.Number.Bounded

/-!
# How a call can fail

`Failure` lists the ways in which a call of the client fails, `Failure.message` words them. Nothing is
tried again; what went wrong reaches the caller as it is.
-/

namespace BoxOffice.Client

/-- Why a call failed. -/
inductive Failure where
  /-- the status is 404 -/
  | notFound
  /-- another status that is no success -/
  | status (code : UInt16) (body : String)
  /-- the body of the response is not what was expected -/
  | unreadable (why : String)
  /-- the body of the request cannot be written -/
  | unwritable (why : String)
  /-- a placeholder in a path has no argument -/
  | missingArgument (name : String)
  /-- there was no response -/
  | transport (why : String)
  deriving DecidableEq, Repr

/-- The wording of a failure. -/
def Failure.message : Failure → String
  | .notFound => "resource not found"
  | .status code body =>
    "HTTP " ++ String.ofList (Number.natDigits code.toNat) ++ ": " ++ body
  | .unreadable why => "deserialization failed: " ++ why
  | .unwritable why => "serialization failed: " ++ why
  | .missingArgument name => "missing path parameter `" ++ name ++ "`"
  | .transport why => "transport failed: " ++ why

end BoxOffice.Client
