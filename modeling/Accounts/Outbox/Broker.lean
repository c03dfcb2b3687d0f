import Accounts.Outbox.Recorder
/-!
# A broker as the bus

The bus may be a broker, to which a producer hands records.  A record goes to the
topic of its message, in the name space of the producer.  A producer refuses records
above a size, without asking the broker; any other record has to be taken by a
broker within the time that the producer allows.
-/

namespace Accounts.Outbox

/-- A producer of records. -/
structure Producer where
  /-- The name space of its topics, if there is one. -/
  topicPrefix : Option String
  /-- The greatest size of a record, its key included. -/
  greatest : Nat
deriving DecidableEq, Repr

namespace Producer

/-- The greatest size of a record when nothing else is said. -/
def usualSize : Nat := 1000000

/-- A producer; an empty name space is none. -/
def ofPrefix (topicPrefix : Option String) (greatest : Nat) : Producer :=
  ⟨topicPrefix.filter (· != ""), greatest⟩

/-- The topic of a record. -/
def topic (p : Producer) (t : String) : String :=
  match p.topicPrefix with
  | some space => space ++ "." ++ t
  | none => t

/-- The name of the setting that holds the time a record may take. -/
def timeoutSetting : String := "message.timeout.ms"

/-- A number of milliseconds as the producer stores it: the largest 64-bit number stands
for any larger one, and the lowest 32 bits are kept. -/
def storedTimeout (ms : Nat) : Int := Int.bmod (min ms (Nat.pow 2 63 - 1)) (Nat.pow 2 32)

/-- A producer cannot be set up. -/
def setupFailed (reason : String) : OutboxError :=
  .publishFailed ("Kafka producer setup failed: " ++ reason)

/-- Sets a producer up for a list of brokers and a time in milliseconds. -/
def setUp (brokers : String) (topicPrefix : Option String) (ms : Nat) :
    Except OutboxError Producer :=
  if brokers.toList.contains '\x00' then .error (setupFailed "FFI null error")
  else if storedTimeout ms < 0 then
    .error <| setupFailed <| "Client config error: Configuration property \"" ++ timeoutSetting ++
      "\" value " ++ toString (storedTimeout ms) ++ " is outside allowed range 0.." ++
      toString (Nat.pow 2 31 - 1) ++ "\n " ++ timeoutSetting ++ " " ++ toString ms
  else .ok (ofPrefix topicPrefix usualSize)

/-- A record is not taken. -/
def refused (reason : String) : OutboxError :=
  .publishFailed ("Kafka publish failed: Message production error: " ++ reason)

/-- The size of a record. -/
def recordSize (payload key : String) : Nat := payload.utf8ByteSize + key.utf8ByteSize

/-- What becomes of a record of a size when no broker can be reached. -/
def handUnreachable (p : Producer) (size : Nat) : Except OutboxError Unit :=
  if p.greatest < size then .error (refused "MessageSizeTooLarge (Broker: Message size too large)")
  else .error (refused "MessageTimedOut (Local: Message timed out)")

end Producer

end Accounts.Outbox
