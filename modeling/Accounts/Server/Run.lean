import Accounts.Outbox.Loop
import Accounts.Server.Startup
/-!
# Running the server

While the server runs, its relay goes from cycle to cycle; after every so many
cycles it looks at the backlog.  A signal ends the server: first the relay is
stopped, between two cycles, and then the server ends.
-/

namespace Accounts.Server

open Outbox (Note OutboxError Message)

/-- A signal that ends the server. -/
inductive Signal
  /-- It was asked to end. -/
  | terminate
  /-- It was interrupted from the keyboard. -/
  | interrupt
deriving DecidableEq, Repr

/-- What is told about a signal. -/
def Signal.message : Signal → String
  | .terminate => "Received SIGTERM signal"
  | .interrupt => "Received Ctrl+C signal"

/-- The line of the log for a note of the relay. -/
def lineOf (n : Note) : LogLine where
  level := n.level
  target :=
    match n with
    | .vanished _ => storeTarget
    | _ => relayTarget
  message := n.message
  details := n.details

/-- Replies to the relay of the server. -/
def relayReply (plan : RelayPlan) (c : Outbox.RelayCall) : Serving c.Reply :=
  Outbox.Stored.relayReply ask
    (fun m => Dialogue.query (I := serverSurroundings) (.publish plan.producer m))
    (fun _ => .done ()) (fun n => say (lineOf n)) c

/-- Tells an error, if there is one. -/
def complain {α : Type} (note : OutboxError → Note) : Except OutboxError α → Serving Unit
  | .ok _ => .done ()
  | .error e => say (lineOf (note e))

/-- The cycle of a number, from 1 on, with the look at the backlog that may follow. -/
def tick (plan : RelayPlan) (number : Nat) : Serving Unit := do
  complain .cycleFailed
    (← Dialogue.run (I := Outbox.relaySurroundings) (relayReply plan) Outbox.cycle)
  if number % Outbox.backlogTicks = 0 then
    complain .backlogUnknown
      (← Dialogue.run (I := Database.sessionSurroundings) ask Outbox.Stored.backlog.run)

/-- The first words of the relay. -/
def relayStart (plan : RelayPlan) : Serving Unit := say (lineOf (.starting plan.tick.millis))

/-- Ends the server after a signal. -/
def stop (signal : Signal) (plan : Option RelayPlan) : Serving Unit := do
  inform serverTarget signal.message
  if plan.isSome then
    say (lineOf .stopped)
    inform taskTarget "Outbox relay shut down"
  inform serverTarget "Account service shutdown complete"

end Accounts.Server
