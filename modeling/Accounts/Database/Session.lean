import Accounts.Database.Migration
import Accounts.Database.Pool
import Accounts.Database.Statement
/-!
# Sessions

A session is a dialogue with the database.  A statement runs alone or within a
transaction; a transaction is started, and then committed, rolled back or
abandoned.  To abandon a transaction is never an error, and does nothing when none
is open.

`transaction` is the one way in which work that begins and ends within a session
uses a transaction.  It commits only after the work has succeeded, and whenever
something fails it abandons the transaction: the work, the commit or the rollback.
-/

namespace Accounts.Database

/-- What the database answers to a statement that succeeds. -/
structure Answer where
  /-- How many rows the statement changed. -/
  affected : Nat
  /-- The rows that it shows. -/
  rows : List Row
deriving Inhabited

/-- A command of a transaction. -/
inductive Command
  /-- Start it. -/
  | start
  /-- Keep what it did. -/
  | commit
  /-- Undo what it did. -/
  | rollback
deriving DecidableEq, Repr

/-- The text of a command. -/
def Command.text : Command → String
  | .start => "BEGIN"
  | .commit => "COMMIT"
  | .rollback => "ROLLBACK"

/-- A question to the database. -/
inductive SessionCall
  /-- Open a pool. -/
  | connect (pool : Pool)
  /-- A command of a transaction. -/
  | command (command : Command)
  /-- Let go of the transaction; it is undone. -/
  | abandon
  /-- Run a statement within the transaction. -/
  | within (statement : Statement)
  /-- Run a statement alone. -/
  | alone (statement : Statement)
  /-- Run a migration within the transaction. -/
  | migrate (migration : Migration)
  /-- Tell the time. -/
  | clock

/-- The kinds of replies of the database. -/
def SessionCall.Reply : SessionCall → Type
  | connect _ | command _ | migrate _ => Except DatabaseError Unit
  | abandon => Unit
  | within _ | alone _ => Except DatabaseError Answer
  | clock => Instant

/-- The surroundings of a session. -/
def sessionSurroundings : Interface := ⟨SessionCall, SessionCall.Reply⟩

/-- A session with results of type `α` and failures of type `ε`. -/
abbrev Session (ε α : Type) := ExceptT ε (Dialogue sessionSurroundings) α

/-- How a transaction ends. -/
inductive Ending
  /-- What it did is kept. -/
  | commit
  /-- What it did is undone. -/
  | rollback
deriving DecidableEq, Repr

/-- The command that ends a transaction. -/
def Ending.command : Ending → Command
  | .commit => .commit
  | .rollback => .rollback

namespace Session

variable {ε α : Type}

/-- Opens a pool. -/
def connect (pool : Pool) (fail : DatabaseError → ε) : Session ε Unit :=
  ExceptT.mk (.ask (I := sessionSurroundings) (.connect pool) fun r =>
    .done (Except.mapError fail r))

/-- Gives a command. -/
def command (c : Command) (fail : DatabaseError → ε) : Session ε Unit :=
  ExceptT.mk (.ask (I := sessionSurroundings) (.command c) fun r =>
    .done (Except.mapError fail r))

/-- Runs a migration within the transaction. -/
def migrate (m : Migration) (fail : DatabaseError → ε) : Session ε Unit :=
  ExceptT.mk (.ask (I := sessionSurroundings) (.migrate m) fun r =>
    .done (Except.mapError fail r))

/-- Runs a statement within the transaction. -/
def within (s : Statement) (fail : DatabaseError → ε) : Session ε Answer :=
  ExceptT.mk (.ask (I := sessionSurroundings) (.within s) fun r =>
    .done (Except.mapError fail r))

/-- Runs a statement alone. -/
def alone (s : Statement) (fail : DatabaseError → ε) : Session ε Answer :=
  ExceptT.mk (.ask (I := sessionSurroundings) (.alone s) fun r =>
    .done (Except.mapError fail r))

/-- Tells the time. -/
def clock : Session ε Instant :=
  ExceptT.mk (.ask (I := sessionSurroundings) .clock fun t => .done (.ok t))

/-- Lets go of the transaction and fails. -/
def giveUp (e : ε) : Session ε α :=
  ExceptT.mk (.ask (I := sessionSurroundings) .abandon fun _ => .done (.error e))

/-- Goes on with a result; a failure also lets go of the transaction. -/
def orGiveUp (work : Session ε α) : Session ε α :=
  ExceptT.mk <| work.run.bind fun
    | .ok a => .done (.ok a)
    | .error e => (giveUp e).run

/-- Work in a transaction, which ends as the work says. -/
def transaction (fail : Command → DatabaseError → ε) (work : Session ε (Ending × α)) :
    Session ε α := do
  command .start (fail .start)
  orGiveUp do
    let (ending, a) ← work
    command ending.command (fail ending.command)
    return a

/-- The same work with failures of another type. -/
def mapFailure {δ : Type} (f : ε → δ) (work : Session ε α) : Session δ α :=
  ExceptT.mk (work.run.bind fun r => .done (r.mapError f))

/-- Reads the first row of an answer, if there is one. -/
def firstRow (read : Row → Except DatabaseError α) (fail : DatabaseError → ε) (a : Answer) :
    Session ε (Option α) :=
  match a.rows with
  | [] => pure none
  | r :: _ => ExceptT.mk (.done (((read r).map some).mapError fail))

/-- Reads all rows of an answer. -/
def allRows (read : Row → Except DatabaseError α) (fail : DatabaseError → ε) (a : Answer) :
    Session ε (List α) :=
  ExceptT.mk (.done ((a.rows.mapM read).mapError fail))

end Session

end Accounts.Database
