import Accounts.Database.Script
import Accounts.Outbox.Stored
/-!
# A relay on a scripted database

For trying a relay out, its database follows a script, its bus is any machine that
takes messages, and what it tells is written down.
-/

namespace Accounts.Outbox

open Accounts.Database

/-- The surroundings of a relay on a scripted database, with a bus of type `β`. -/
structure Scripted (β : Type) where
  /-- The database. -/
  script : Script
  /-- The bus. -/
  bus : β
  /-- What was told, in order. -/
  notes : List Note

namespace Scripted

variable {α β ε : Type}

/-- Replies to a question to the database. -/
def sql (c : SessionCall) : StateM (Scripted β) c.Reply := fun s =>
  let (r, script) := s.script.reply c
  (r, { s with script })

/-- Replies to a session. -/
def session (work : Session ε α) : StateM (Scripted β) (Except ε α) :=
  Dialogue.run (I := sessionSurroundings) sql work.run

/-- Writes a note down. -/
def tell (n : Note) : StateM (Scripted β) Unit := modify fun s => { s with notes := s.notes ++ [n] }

/-- Hands a message to the bus. -/
def hand (publish : β → Message → Except OutboxError Unit × β) (m : Message) :
    StateM (Scripted β) (Except OutboxError Unit) := fun s =>
  let (r, bus) := publish s.bus m
  (r, { s with bus })

/-- Replies to a relay. -/
def relay (publish : β → Message → Except OutboxError Unit × β) (work : Relaying α) :
    StateM (Scripted β) α :=
  Dialogue.run (I := relaySurroundings)
    (Stored.relayReply sql (hand publish) (fun _ => pure ()) tell) work

end Scripted

end Accounts.Outbox
