import Accounts.Outbox.Stored
import Accounts.Text.Report
import Accounts.Tool.Command
/-!
# Running the operator's tool

The tool opens the database, sends one statement, and reports what it did or what
went wrong.  A number of days that leads out of the instants that there are makes
the tool break off, after the database was opened and before a statement is sent.
-/

namespace Accounts.Tool

open Database
open Outbox (OutboxError)

/-- How the tool ends. -/
inductive Exit
  /-- It did what it was asked for. -/
  | success (output : String)
  /-- It did not. -/
  | failure (message : String)
  /-- It broke off. -/
  | broken
deriving DecidableEq, Repr

/-- The number of an end. -/
def Exit.code : Exit → Nat
  | .success _ => 0
  | .failure _ => 1
  | .broken => 101

/-- A text as it stands in a diagnosis. -/
def quoted (s : String) : String := Json.shownText s

/-- The diagnosis of a fault in a column. -/
def columnDiagnosis : ColumnFault → String
  | .unexpectedNull => "UnexpectedNullError"
  | f => quoted f.message

/-- The diagnosis of an error of the database. -/
def databaseDiagnosis : DatabaseError → String
  | .rowNotFound => "RowNotFound"
  | .poolTimedOut => "PoolTimedOut"
  | .poolClosed => "PoolClosed"
  | .workerCrashed => "WorkerCrashed"
  | .columnNotFound name => "ColumnNotFound(" ++ quoted name ++ ")"
  | .columnOutOfRange index count =>
    "ColumnIndexOutOfBounds \x7b index: " ++ toString index ++ ", len: " ++ toString count ++
      " \x7d"
  | .columnDecode column fault =>
    "ColumnDecode \x7b index: " ++ quoted column ++ ", source: " ++ columnDiagnosis fault ++ " \x7d"
  | .rejected _ text _ => "Database(" ++ quoted text ++ ")"
  | .unexpected text => "Protocol(" ++ quoted text ++ ")"
  | .relativeUrl => "Configuration(RelativeUrlWithoutBase)"

/-- The diagnosis of an error of the outbox. -/
def outboxDiagnosis : OutboxError → String
  | .database e => "DatabaseError(" ++ databaseDiagnosis e ++ ")"
  | .envelopeNotFound id => "EnvelopeNotFound(" ++ toString id ++ ")"
  | .publishFailed reason => "PublishFailed(" ++ quoted reason ++ ")"
  | .serialization reason => "SerializationError(" ++ quoted reason ++ ")"
  | .other reason causes =>
    "Other(" ++ Text.report reason (causes.flatMap DatabaseError.causes) ++ ")"

/-- A diagnosis on its own line. -/
def failed (diagnosis : String) : Exit := .failure ("Error: " ++ diagnosis)

/-- Carries a command out. -/
def Command.carryOut : Command → Session Exit String
  | .requeueErrors since => do
    let n ← Session.mapFailure lost (Outbox.Stored.requeueSince since)
    return "Re-queued " ++ toString n ++ " failed envelopes created since " ++ since.shown
  | .requeueRange least most => do
    let n ← Session.mapFailure lost (Outbox.Stored.requeueRange least most)
    return "Re-queued " ++ toString n ++ " failed envelopes with ids " ++ toString least ++ "..=" ++
      toString most
  | .purgeDone days => do
    let now ← Session.clock
    match now.before? (days * 86400) with
    | none => throw .broken
    | some cutoff =>
      let n ← Session.mapFailure lost (Outbox.Stored.purgeDone cutoff)
      return "Purged " ++ toString n ++ " delivered envelopes older than " ++ toString days ++
        " days"
  | .stats => do
    let b ← Session.mapFailure lost Outbox.Stored.backlog
    return "pending=" ++ toString b.pending ++ " oldest_pending_age_seconds=" ++
      toString b.oldestAge
where
  /-- The end after an error of the outbox. -/
  lost (e : OutboxError) : Exit := failed (outboxDiagnosis e)

/-- Opens the database and carries a command out. -/
def Command.work (c : Command) (address : String) : Session Exit String := do
  Session.connect (.ofAddress address) fun e => failed (databaseDiagnosis e)
  c.carryOut

/-- Runs the tool on a command line. -/
def run (arguments : List String) : Dialogue sessionSurroundings Exit :=
  match Command.parse arguments with
  | .error r => .done (.failure r.message)
  | .ok (c, address) => (c.work address).run.bind fun
    | .ok output => .done (.success output)
    | .error e => .done e

end Accounts.Tool
