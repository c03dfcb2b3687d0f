import Accounts.Database.Session
import Accounts.Text.Parts
/-!
# A database that follows a script

For trying sessions out, a script says what the database replies.  A reply may be
meant for a command: then it is taken only when it comes first in the script and
the text of the command contains its own.  A reply may be meant for statements that
contain a text; other statements pass it over.  Any other reply is taken by the next
statement.  When no reply is left, a statement changes nothing and shows nothing,
and a command succeeds.

The database has one connection, and writes down what it is sent.
-/

namespace Accounts.Database

/-- A reply of a script. -/
structure ScriptedReply where
  /-- The command that it is meant for. -/
  command : Option String
  /-- The statements that it is meant for. -/
  within : Option String
  /-- What is replied. -/
  result : Except DatabaseError Answer

/-- What the database was sent. -/
inductive Sent
  /-- A command of a transaction. -/
  | command (command : Command)
  /-- A migration. -/
  | migration (migration : Migration)
  /-- A statement. -/
  | statement (statement : Statement)

/-- A database that follows a script. -/
structure Script where
  /-- The replies that are left. -/
  replies : List ScriptedReply
  /-- A transaction is open. -/
  inTransaction : Bool
  /-- What was sent, in order. -/
  sent : List Sent
  /-- Looks at the backlog take only replies that are meant for them, and otherwise find
  nothing that waits. -/
  quietBacklog : Bool
  /-- The time. -/
  clock : Instant

namespace Script

/-- The database before a script. -/
def ofReplies (clock : Instant) (replies : List ScriptedReply) : Script :=
  ⟨replies, false, [], false, clock⟩

/-- Writes down what was sent. -/
def write (s : Script) (x : Sent) : Script := { s with sent := s.sent ++ [x] }

/-- Replies to something with a text and without values. -/
def command (s : Script) (text : String) (x : Sent) : Except DatabaseError Unit × Script :=
  let s := s.write x
  match s.replies with
  | ⟨some c, _, result⟩ :: rest =>
    if Text.occursIn c text then (result.map fun _ => (), { s with replies := rest }) else (.ok (), s)
  | _ => (.ok (), s)

/-- Takes the first reply that fits. -/
def takeFirst (fits : ScriptedReply → Bool) :
    List ScriptedReply → Option (ScriptedReply × List ScriptedReply)
  | [] => none
  | r :: rs => if fits r then some (r, rs) else (takeFirst fits rs).map fun (t, ts) => (t, r :: ts)

/-- A reply is meant for a statement. -/
def meant (s : Script) (statement : Statement) (r : ScriptedReply) : Bool :=
  r.command.isNone && match r.within, statement with
    | some part, _ => Text.occursIn part statement.text
    | none, .backlog => !s.quietBacklog
    | none, _ => true

/-- What a statement is replied for which no reply is left. -/
def silence (s : Script) : Statement → Answer
  | .backlog =>
    if s.quietBacklog then
      ⟨1, [[("pending", some (.integer 0)), ("age_seconds", some (.integer 0))]]⟩
    else ⟨0, []⟩
  | _ => ⟨0, []⟩

/-- Replies to a statement. -/
def statement (s : Script) (x : Statement) : Except DatabaseError Answer × Script :=
  let s := s.write (.statement x)
  match takeFirst (s.meant x) s.replies with
  | some (r, rest) => (r.result, { s with replies := rest })
  | none => (.ok (s.silence x), s)

/-- Undoes the open transaction. -/
def undo (s : Script) : Script :=
  { (s.command Command.rollback.text (.command .rollback)).2 with inTransaction := false }

/-- Ends the open transaction by a command. -/
def conclude (s : Script) (c : Command) : Except DatabaseError Unit × Script :=
  match s.command c.text (.command c) with
  | (.ok (), s) => (.ok (), { s with inTransaction := false })
  | (.error e, s) => (.error e, s)

/-- Replies to a question. -/
def reply (s : Script) : (c : SessionCall) → c.Reply × Script
  | .connect pool =>
    if !Pool.hasScheme pool.address then (.error .relativeUrl, s)
    else if pool.isUsable then (.ok (), s)
    else (.error .poolTimedOut, s)
  | .command .start =>
    if s.inTransaction then (.error .poolTimedOut, s)
    else match s.command Command.start.text (.command .start) with
      | (.ok (), s) => (.ok (), { s with inTransaction := true })
      | (.error e, s) => (.error e, s.undo)
  | .command c => s.conclude c
  | .abandon => ((), if s.inTransaction then s.undo else s)
  | .within x => s.statement x
  | .alone x => if s.inTransaction then (.error .poolTimedOut, s) else s.statement x
  | .migrate m => s.command m.text (.migration m)
  | .clock => (s.clock, s)

/-- Replies to a question, in a monad. -/
def replyM (c : SessionCall) : StateM Script c.Reply := fun s => s.reply c

/-- Replies to a session. -/
def perform {ε α : Type} (work : Session ε α) : StateM Script (Except ε α) :=
  Dialogue.run (I := sessionSurroundings) replyM work.run

end Script

end Accounts.Database
