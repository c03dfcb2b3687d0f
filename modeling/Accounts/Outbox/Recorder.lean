import Accounts.Outbox.Error
/-!
# A bus that records

The bus in memory keeps every message that it takes, in order.  It can be told to
refuse a topic, or to refuse the next few messages; a message for a refused topic
is not one of those few.
-/

namespace Accounts.Outbox

/-- A message on the bus. -/
structure Message where
  /-- Where it goes. -/
  topic : String
  /-- What it says. -/
  payload : String
  /-- The key by which a receiver tells a repeated message. -/
  key : String
deriving DecidableEq, Repr, Inhabited

/-- A bus in memory. -/
structure Recorder where
  /-- The messages that were taken, in order. -/
  messages : List Message
  /-- How many of the next messages are refused. -/
  failing : Nat
  /-- The topics that are refused. -/
  failingTopics : List String
deriving DecidableEq, Repr, Inhabited

namespace Recorder

/-- The bus that took nothing yet and refuses nothing. -/
def empty : Recorder := ⟨[], 0, []⟩

/-- Hands a message to the bus. -/
def publish (r : Recorder) (m : Message) : Except OutboxError Unit × Recorder :=
  if r.failingTopics.contains m.topic then
    (.error (.publishFailed ("topic " ++ m.topic ++ " unavailable")), r)
  else if r.failing = 0 then (.ok (), { r with messages := r.messages ++ [m] })
  else (.error (.publishFailed "broker unavailable"), { r with failing := r.failing - 1 })

/-- A message is kept exactly when it is taken. -/
theorem messages_publish (r : Recorder) (m : Message) :
    (r.publish m).2.messages = r.messages ++ (if (r.publish m).1.isOk then [m] else []) := by
  unfold publish
  split
  · simp [Except.isOk, Except.toBool]
  · split <;> simp [Except.isOk, Except.toBool]

end Recorder

end Accounts.Outbox
