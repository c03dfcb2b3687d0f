import Accounts.Outbox.Recorder
import Accounts.Outbox.Store
import Accounts.Dialogue
/-!
# One cycle of the relay

In one cycle the relay claims an envelope, hands it to the bus, and marks it as
delivered or as failed.  A message that the bus does not take is no error of the
cycle.  The cycle fails when the claim or the mark fails; then the claim is let go
and the envelope stays as it was.

The cycle is a dialogue: `RelayCall` is what it asks of the outbox, of the bus and
of those who look on.  Marking an envelope and letting go of it are two questions,
because others may act in between.
-/

namespace Accounts.Outbox

/-- How a cycle ends. -/
inductive Outcome
  /-- Nothing waited. -/
  | idle
  /-- The envelope of this number was delivered. -/
  | delivered (id : Int)
  /-- The envelope of this number was not taken by the bus. -/
  | failed (id : Int)
deriving DecidableEq, Repr

/-- The end of a cycle as JSON. -/
def Outcome.json : Outcome → Json
  | .idle => .string "idle"
  | .delivered id => .ofFields [("delivered", .ofInt id)]
  | .failed id => .ofFields [("failed", .ofInt id)]

/-- How urgent a note is. -/
inductive Level
  /-- Nothing to act on. -/
  | info
  /-- Something to look at. -/
  | warn
  /-- Something went wrong. -/
  | error
deriving DecidableEq, Repr

/-- The name of a level. -/
def Level.name : Level → String
  | .info => "INFO"
  | .warn => "WARN"
  | .error => "ERROR"

/-- What the relay tells those who look on. -/
inductive Note
  /-- The relay starts, with this many milliseconds between two cycles. -/
  | starting (tick : Nat)
  /-- An envelope was delivered. -/
  | relayed (id : Int) (topic : String)
  /-- The bus did not take an envelope. -/
  | refused (id : Int) (topic : String) (error : OutboxError)
  /-- An envelope was gone when it was to be marked. -/
  | vanished (id : Int)
  /-- A cycle failed. -/
  | cycleFailed (error : OutboxError)
  /-- The backlog could not be looked up. -/
  | backlogUnknown (error : OutboxError)
  /-- The relay ends. -/
  | stopped
deriving DecidableEq, Repr

namespace Note

/-- How urgent a note is. -/
def level : Note → Level
  | .starting _ | .relayed _ _ | .stopped => .info
  | .vanished _ | .backlogUnknown _ => .warn
  | .refused _ _ _ => .error
  | .cycleFailed e => if e.isTransient then .warn else .error

/-- What a note says. -/
def message : Note → String
  | .starting _ => "Outbox relay starting"
  | .relayed _ _ => "Envelope relayed"
  | .refused _ _ _ => "Failed to publish envelope, marking as error"
  | .vanished _ => "Envelope vanished while claimed"
  | .cycleFailed e =>
    if e.isTransient then "Outbox relay cycle failed, retrying next tick"
    else "Outbox relay cycle failed"
  | .backlogUnknown _ => "Failed to refresh outbox pending stats"
  | .stopped => "Outbox relay stopped"

/-- What a note adds to its message. -/
def details : Note → List (String × Json)
  | .starting tick => [("tick_ms", .ofNat tick)]
  | .relayed id topic => [("envelope_id", .ofInt id), ("topic", .string topic)]
  | .refused id topic e =>
    [("envelope_id", .ofInt id), ("topic", .string topic), ("error", .string e.message)]
  | .vanished id => [("envelope_id", .ofInt id)]
  | .cycleFailed e | .backlogUnknown e => [("error", .string e.message)]
  | .stopped => []

end Note

/-- What a cycle asks. -/
inductive RelayCall
  /-- Claim the next envelope. -/
  | claim
  /-- Hand a message to the bus. -/
  | publish (message : Message)
  /-- Mark the claimed envelope. -/
  | mark (id : Int) (status : Status)
  /-- Let go of the claimed envelope. -/
  | release (id : Int)
  /-- Count a delivery or a failure. -/
  | count (outcome : Outcome)
  /-- Tell those who look on. -/
  | note (entry : Note)

/-- The kinds of replies to a cycle. -/
def RelayCall.Reply : RelayCall → Type
  | .claim => Except OutboxError (Option Envelope)
  | .publish _ => Except OutboxError Unit
  | .mark _ _ => Except OutboxError Unit
  | .release _ => Unit
  | .count _ => Unit
  | .note _ => Unit

/-- The surroundings of a relay. -/
def relaySurroundings : Interface := ⟨RelayCall, RelayCall.Reply⟩

/-- A part of a cycle. -/
abbrev Relaying (α : Type) := Dialogue relaySurroundings α

/-- The message for an envelope. -/
def Envelope.message (e : Envelope) : Message := ⟨e.topic, e.payload.text, e.key⟩

/-- Marks the claimed envelope and lets go of it. -/
def settle (e : Envelope) (status : Status) : Relaying (Except OutboxError Unit) :=
  .ask (.mark e.id status) fun result => .ask (.release e.id) fun _ => .done result

/-- Marks an envelope that the bus took. -/
def finishDelivered (e : Envelope) : Relaying (Except OutboxError Outcome) := do
  match ← settle e .done with
  | .error f => return .error f
  | .ok () =>
    Dialogue.query (I := relaySurroundings) (.count (.delivered e.id))
    Dialogue.query (I := relaySurroundings) (.note (.relayed e.id e.topic))
    return .ok (.delivered e.id)

/-- Marks an envelope that the bus did not take. -/
def finishRefused (e : Envelope) (reason : OutboxError) :
    Relaying (Except OutboxError Outcome) := do
  Dialogue.query (I := relaySurroundings) (.note (.refused e.id e.topic reason))
  match ← settle e .error with
  | .error f => return .error f
  | .ok () =>
    Dialogue.query (I := relaySurroundings) (.count (.failed e.id))
    return .ok (.failed e.id)

/-- What follows on a claim. -/
def afterClaim : Except OutboxError (Option Envelope) → Relaying (Except OutboxError Outcome)
  | .error f => .done (.error f)
  | .ok none => .done (.ok .idle)
  | .ok (some e) => .ask (.publish e.message) fun
    | .ok () => finishDelivered e
    | .error f => finishRefused e f

/-- One cycle. -/
def cycle : Relaying (Except OutboxError Outcome) := .ask .claim afterClaim

end Accounts.Outbox
