import Accounts.Tool.Run
/-!
# The operator's tool as a program

The program runs the tool on its arguments.  It has no driver for a database, so
that no connection ever becomes free.
-/

namespace Accounts.Tool

open Database

/-- Replies when no database can be reached. -/
def replyUnreachable : (c : SessionCall) → Id c.Reply
  | .connect pool => .error (if Pool.hasScheme pool.address then .poolTimedOut else .relativeUrl)
  | .command _ | .migrate _ => .error .poolTimedOut
  | .abandon => ()
  | .within _ | .alone _ => .error .poolTimedOut
  | .clock => Instant.ofSeconds 0

/-- Prints how the tool ends. -/
def Exit.print : Exit → IO Unit
  | .success output => IO.println output
  | .failure message => IO.eprintln message
  | .broken => IO.eprintln "there is no such instant"

end Accounts.Tool

/-- Runs the tool. -/
def main (arguments : List String) : IO UInt32 := do
  let exit := Accounts.Dialogue.run (I := Accounts.Database.sessionSurroundings)
    Accounts.Tool.replyUnreachable (Accounts.Tool.run arguments)
  exit.print
  return exit.code.toUInt32
