import Accounts.Database.Error
import Accounts.Outbox.Payload
/-!
# Outbox errors

An error of the outbox is transient when the relay may expect it to clear up by
itself on a later tick.
-/

namespace Accounts.Outbox

/-- What went wrong with the outbox. -/
inductive OutboxError
  /-- The database failed. -/
  | database (error : DatabaseError)
  /-- There is no envelope with this number. -/
  | envelopeNotFound (id : Int)
  /-- The bus did not take a message. -/
  | publishFailed (reason : String)
  /-- Content could not become JSON, or a payload is not JSON. -/
  | serialization (reason : String)
  /-- Something else failed; the causes lie below it, the nearest first. -/
  | other (reason : String) (causes : List DatabaseError)
deriving DecidableEq, Repr

namespace OutboxError

/-- The message of an error. -/
def message : OutboxError → String
  | .database e => "Database error: " ++ e.message
  | .envelopeNotFound id => "Envelope not found: " ++ toString id
  | .publishFailed reason => "Publish failed: " ++ reason
  | .serialization reason => "Serialization error: " ++ reason
  | .other reason _ => "Outbox error: " ++ reason

/-- The name of the kind of an error. -/
def name : OutboxError → String
  | .database _ => "DatabaseError"
  | .envelopeNotFound _ => "EnvelopeNotFound"
  | .publishFailed _ => "PublishFailed"
  | .serialization _ => "SerializationError"
  | .other _ _ => "Other"

/-- The relay may expect the error to clear up by itself. -/
def isTransient : OutboxError → Bool
  | .database _ | .other _ _ => true
  | _ => false

/-- The fields of an error as JSON. -/
def fields (e : OutboxError) : List (String × Json) := [
  ("error", .string e.name),
  ("message", .string e.message),
  ("transient", .bool e.isTransient)]

/-- Content without a JSON form. -/
def ofPayloadFault (f : PayloadFault) : OutboxError := .serialization f.message

end OutboxError

end Accounts.Outbox
