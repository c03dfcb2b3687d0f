import Accounts.Account.User
import Accounts.Outbox.Payload
/-!
# Envelopes

An envelope is one outbound message as it is stored: a number, a topic, a JSON
payload, where it stands, and two instants.  Its number is also the key by which
a receiver tells a repeated message.
-/

namespace Accounts.Outbox

/-- Where an envelope stands. -/
inductive Status
  /-- It waits to be delivered. -/
  | created
  /-- It was delivered. -/
  | done
  /-- Its delivery failed; an operator has to act. -/
  | error
deriving DecidableEq, Repr, Inhabited

namespace Status

/-- All states of an envelope. -/
def all : List Status := [.created, .done, .error]

/-- The name of a state. -/
def name : Status → String
  | .created => "created"
  | .done => "done"
  | .error => "error"

/-- Reads a state by its name. -/
def decoder : Json.Decoder Status := .oneOf all name

end Status

/-- An event that is not stored yet. -/
structure NewEnvelope where
  /-- Where the message goes. -/
  topic : String
  /-- What the message says. -/
  payload : Json
deriving Repr, Inhabited

/-- An event as JSON. -/
def NewEnvelope.json (e : NewEnvelope) : Json :=
  .ofFields [("topic", .string e.topic), ("payload", e.payload)]

/-- A stored message. -/
structure Envelope where
  /-- The number that it got when it was stored. -/
  id : Int
  /-- Where the message goes. -/
  topic : String
  /-- What the message says. -/
  payload : Json
  /-- Where the envelope stands. -/
  status : Status
  /-- When it was stored. -/
  createdAt : Instant
  /-- When it was last changed. -/
  updatedAt : Instant
deriving Repr, Inhabited

/-- Pairs content with its topic. -/
def NewEnvelope.ofPayload (topic : String) (p : Payload) : Except PayloadFault NewEnvelope :=
  p.toJson.map fun v => ⟨topic, v⟩

namespace Envelope

/-- The key by which a receiver tells a repeated message. -/
def key (e : Envelope) : String := String.ofList (Json.integerChars e.id)

/-- The envelope as JSON. -/
def json (e : Envelope) : Json := .ofFields [
  ("id", .ofInt e.id),
  ("topic", .string e.topic),
  ("payload", e.payload),
  ("status", .string e.status.name),
  ("created_at", e.createdAt.json),
  ("updated_at", e.updatedAt.json)]

open Json Record in
/-- Reads an envelope. -/
def decoder : Decoder Envelope :=
  Record.decoder "EventEnvelope" <|
    (value Envelope.mk).andThen (field "id" .int64)
      |>.andThen (field "topic" .text)
      |>.andThen (field "payload" .any)
      |>.andThen (field "status" Status.decoder)
      |>.andThen (field "created_at" Instant.decoder)
      |>.andThen (field "updated_at" Instant.decoder)

end Envelope

end Accounts.Outbox
