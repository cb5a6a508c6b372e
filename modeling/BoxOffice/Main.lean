import BoxOffice.Server.Address

/-!
# The server program

Takes the port from the environment and says on which address the box office listens. If that address
has no port, the program ends with a fault and the status 1.
-/

open BoxOffice.Server

/-- The server program, up to its first connection. -/
def main : IO UInt32 := do
  let a := addressOf (← IO.getEnv portVariable)
  match port? a with
  | some _ =>
    IO.println (listening a)
    return 0
  | none =>
    IO.eprintln badPort
    return 1
