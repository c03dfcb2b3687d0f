import Accounts.Proofs.Account.Event
import Accounts.Proofs.Json.Reading
import Accounts.Proofs.Outbox.Delivery
import Accounts.Proofs.Outbox.LifeCycle
import Accounts.Proofs.Time.Rfc3339
/-!
# Events survive the wire

An event becomes an envelope, a row of the outbox, a message on the bus and bytes, and whoever
listens to its topic reads the event again.  A row keeps what it says, and a message is that of its
row, so all that is left to see is that the JSON of an event is read as the event and that its text
is read as its JSON.  Every field of an event is text in JSON, so no number can be lost.

Of an envelope in general the same is true of its JSON, but not of its text: a floating-point
number in it may be read as one beside it, and lists that are nested too deep are not read at all.
-/

namespace Accounts

open Json Outbox

/-! ## Values of fields -/

/-- The instants in an event are instants in universal time. -/
def AccountEvent.Representable : AccountEvent → Prop
  | .changed e => e.createdAt.Representable ∧ e.updatedAt.Representable
  | .registered _ | .resetPassword _ => True

namespace AccountEvent

variable {e : AccountEvent}

end AccountEvent

/-! ## Envelopes -/

namespace Outbox.Envelope

variable {env : Envelope}

/-- The number has 64 bits, and the instants are instants in universal time. -/
structure Representable (env : Envelope) : Prop where
  id : -Int.pow 2 63 ≤ env.id ∧ env.id < Int.pow 2 63
  createdAt : env.createdAt.Representable
  updatedAt : env.updatedAt.Representable

/-- The envelope that a text is the text of. -/
def ofText? (s : String) : Option Envelope :=
  (Json.parse s).bind fun v => (decoder.read v).toOption

end Outbox.Envelope

/-! ## Messages -/

/-- The bus takes the next message of a topic. -/
structure Outbox.Recorder.Takes (b : Recorder) (topic : String) : Prop where
  failing : b.failing = 0
  topics : topic ∉ b.failingTopics

/-- What is stored next is claimed next. -/
structure Outbox.Store.Idle (s : Store) : Prop where
  stores : s.refusing = false
  claims : s.failingClaims = 0
  none : ∀ row ∈ s.rows, s.eligible row = false

theorem Outbox.Recorder.Takes.publish {b : Recorder} {m : Message} (h : b.Takes m.topic) :
    b.publish m = (.ok (), { b with messages := b.messages ++ [m] }) := by
  simp [Recorder.publish, h.failing, h.topics]

namespace Outbox.Crew

variable {c : Crew} {e : AccountEvent} {row : Envelope}

/-- A cycle is started and asks all its questions, while nothing else happens. -/
def relay (c : Crew) (metered : Bool) : Crew :=
  c.run (.start metered :: .replicate 6 (.turn c.workers.length))

end Outbox.Crew

end Accounts
