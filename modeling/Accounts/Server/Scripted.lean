import Accounts.Database.Script
import Accounts.Server.Run
/-!
# A server on a scripted database

For trying the server out, its database follows a script, no broker can be reached,
and its log is written down.  When the script is used up, the server gets a signal.
-/

namespace Accounts.Server

open Database

/-- The surroundings of a server on a scripted database. -/
structure Scripted where
  /-- The database. -/
  script : Script
  /-- The lines of the log, in order. -/
  log : List LogLine

namespace Scripted

/-- Replies to a question of the server. -/
def reply : (c : ServerCall) → StateM Scripted c.Reply
  | .log line => modify fun s => { s with log := s.log ++ [line] }
  | .database c => fun s =>
    let (r, script) := s.script.reply c
    (r, { s with script })
  | .publish producer m =>
    pure (producer.handUnreachable (Outbox.Producer.recordSize m.payload m.key))

/-- Replies to a part of the work of the server. -/
def perform {α : Type} (work : Serving α) : StateM Scripted α :=
  Dialogue.run (I := serverSurroundings) reply work

/-- Lets the relay go on from the cycle of a number until the script is used up, but not
for more than `most` cycles. -/
def relay (plan : RelayPlan) (number : Nat) : (most : Nat) → StateM Scripted Unit
  | 0 => pure ()
  | most + 1 => do
    if (← get).script.replies.isEmpty then return
    perform (tick plan number)
    relay plan (number + 1) most

/-- A bound for the cycles in which a script is used up. -/
def cycleBound (s : Scripted) : Nat := Outbox.backlogTicks * (s.script.replies.length + 1)

/-- Starts the server, lets it run until the script is used up, and ends it. -/
def run (given : EnvFile.Bindings) (file : Option String) (signal : Signal) :
    StateM Scripted (Except StartupError Unit) := do
  match ← perform (start given file).run with
  | .error e => return .error e
  | .ok plan =>
    match plan with
    | some p =>
      perform (relayStart p)
      relay p 1 (← get).cycleBound
    | none => pure ()
    perform (stop signal plan)
    return .ok ()

end Scripted

end Accounts.Server
