import Accounts.Database.Value
/-!
# Statements

Everything that is asked of the database, each question with its values.  The text
of a statement depends only on which question it is; for a question that stores
envelopes, also on how many there are.  What a statement asks of a table is told by
its constructor.
-/

namespace Accounts.Database

/-- A statement. -/
inductive Statement
  /-- The user with an address. -/
  | userByEmail (email : String)
  /-- The user with a public name. -/
  | userByPublicId (publicId : String)
  /-- The user who waits for an activation code. -/
  | userByActivationCode (code : String)
  /-- Add a user, and show the row. -/
  | insertUser (user : NewUser)
  /-- Activate the user who waits for a code, and drop the code. -/
  | activateUser (code : String) (now : Instant)
  /-- Give a user a reset code. -/
  | setResetCode (id : Int) (code : String) (now : Instant)
  /-- Give the user with a reset code a password, and drop the code. -/
  | resetPassword (code passwordHash : String) (now : Instant)
  /-- Give a user a password. -/
  | updatePassword (id : Int) (passwordHash : String) (now : Instant)
  /-- Give a user a secret for the second factor. -/
  | setOtpSecret (id : Int) (secret : String)
  /-- Ask the user with a number and a secret for the second factor from now on. -/
  | enableOtp (id : Int) (secret : String) (recoveryCodes : List String)
  /-- Never ask a user for the second factor, and drop what belongs to it. -/
  | disableOtp (id : Int)
  /-- Remove a recovery code of a user who has it. -/
  | consumeRecoveryCode (id : Int) (code : String)
  /-- Store events, and show their numbers. -/
  | insertEnvelopes (events : List Outbox.NewEnvelope)
  /-- The oldest envelope that waits and that no other transaction holds, held from now on. -/
  | claimNext
  /-- Change where an envelope stands. -/
  | markEnvelope (status : Outbox.Status) (id : Int)
  /-- Where an envelope stands. -/
  | envelopeStatus (id : Int)
  /-- How many envelopes wait, and for how many seconds the oldest. -/
  | backlog
  /-- Put failed envelopes back that were stored at an instant or later. -/
  | requeueSince (since : Instant)
  /-- Put failed envelopes back whose numbers lie in a range. -/
  | requeueRange (least most : Int)
  /-- Delete delivered envelopes that were last changed before an instant. -/
  | purgeDone (cutoff : Instant)
deriving Repr

namespace Statement

/-- The columns of a user. -/
def userColumns : String :=
  "id, public_id, email, first_name, last_name, password_hash, status, activation_code, " ++
    "reset_password_code, otp_secret, otp_recovery_codes, otp_enabled, created_at, updated_at"

/-- The columns of an envelope. -/
def envelopeColumns : String := "id, topic, payload, status, created_at, updated_at"

/-- Asks for the users that fit. -/
def selectUsers (column : String) : String :=
  "SELECT " ++ userColumns ++ " FROM users WHERE " ++ column ++ " = $1"

/-- The place of the value of a number, from 1 on. -/
def place (n : Nat) : String := "$" ++ toString n

/-- The places for so many envelopes. -/
def envelopePlaces (count : Nat) : String :=
  ", ".intercalate <| (List.range count).map fun i =>
    "(" ++ ", ".intercalate ((List.range 3).map fun j => place (3 * i + j + 1)) ++ ")"

/-- Puts the failed envelopes back that fit. -/
def requeue (condition : String) : String :=
  "UPDATE outbox_events SET status = 'created', updated_at = NOW() WHERE status = 'error' AND " ++
    condition

/-- The text of a statement. -/
def text : Statement → String
  | userByEmail _ => selectUsers "email"
  | userByPublicId _ => selectUsers "public_id"
  | userByActivationCode _ => selectUsers "activation_code"
  | insertUser _ =>
    "INSERT INTO users ( public_id, email, first_name, last_name, password_hash, status, " ++
      "activation_code, created_at, updated_at ) " ++
      "VALUES ($1, $2, $3, $4, $5, 'registered', $6, $7, $7) RETURNING " ++ userColumns
  | activateUser _ _ =>
    "UPDATE users SET status = 'activated', activation_code = NULL, updated_at = $2 " ++
      "WHERE activation_code = $1"
  | setResetCode _ _ _ =>
    "UPDATE users SET reset_password_code = $2, updated_at = $3 WHERE id = $1"
  | resetPassword _ _ _ =>
    "UPDATE users SET password_hash = $2, reset_password_code = NULL, updated_at = $3 " ++
      "WHERE reset_password_code = $1"
  | updatePassword _ _ _ => "UPDATE users SET password_hash = $2, updated_at = $3 WHERE id = $1"
  | setOtpSecret _ _ => "UPDATE users SET otp_secret = $2, updated_at = NOW() WHERE id = $1"
  | enableOtp _ _ _ =>
    "UPDATE users SET otp_recovery_codes = $3, otp_enabled = TRUE, updated_at = NOW() " ++
      "WHERE id = $1 AND otp_secret = $2"
  | disableOtp _ =>
    "UPDATE users SET otp_enabled = FALSE, otp_secret = NULL, otp_recovery_codes = '\x7b\x7d', " ++
      "updated_at = NOW() WHERE id = $1"
  | consumeRecoveryCode _ _ =>
    "UPDATE users SET otp_recovery_codes = array_remove(otp_recovery_codes, $2), " ++
      "updated_at = NOW() WHERE id = $1 AND $2 = ANY(otp_recovery_codes)"
  | insertEnvelopes events =>
    "INSERT INTO outbox_events (topic, payload, status) VALUES " ++ envelopePlaces events.length ++
      " RETURNING id"
  | claimNext =>
    "SELECT " ++ envelopeColumns ++ " FROM outbox_events " ++
      "WHERE status = 'created' ORDER BY created_at ASC, id ASC LIMIT 1 FOR UPDATE SKIP LOCKED"
  | markEnvelope _ _ => "UPDATE outbox_events SET status = $1, updated_at = NOW() WHERE id = $2"
  | envelopeStatus _ => "SELECT status FROM outbox_events WHERE id = $1"
  | backlog =>
    "SELECT COUNT(*)::BIGINT AS pending, " ++
      "COALESCE(EXTRACT(EPOCH FROM (NOW() - MIN(created_at)))::BIGINT, 0) AS age_seconds " ++
      "FROM outbox_events WHERE status = 'created'"
  | requeueSince _ => requeue "created_at >= $1"
  | requeueRange _ _ => requeue "id BETWEEN $1 AND $2"
  | purgeDone _ => "DELETE FROM outbox_events WHERE status = 'done' AND updated_at < $1"

/-- The values of a new envelope. -/
def envelopeValues (e : Outbox.NewEnvelope) : List Value :=
  [.text e.topic, .json e.payload, .label outboxStatusType Outbox.Status.created.name]

/-- The values of a statement, in the order of their places. -/
def values : Statement → List Value
  | userByEmail s | userByPublicId s | userByActivationCode s => [.text s]
  | insertUser u => [.text u.publicId, .text u.email, .text u.firstName, .text u.lastName,
      .text u.passwordHash, .text u.activationCode, .ofInstant u.createdAt]
  | activateUser code now => [.text code, .ofInstant now]
  | setResetCode id code now => [.integer id, .text code, .ofInstant now]
  | resetPassword code hash now => [.text code, .text hash, .ofInstant now]
  | updatePassword id hash now => [.integer id, .text hash, .ofInstant now]
  | setOtpSecret id secret => [.integer id, .text secret]
  | enableOtp id secret codes => [.integer id, .text secret, .texts codes]
  | disableOtp id => [.integer id]
  | consumeRecoveryCode id code => [.integer id, .text code]
  | insertEnvelopes events => events.flatMap envelopeValues
  | claimNext | backlog => []
  | markEnvelope status id => [.label outboxStatusType status.name, .integer id]
  | envelopeStatus id => [.integer id]
  | requeueSince since => [.ofInstant since]
  | requeueRange least most => [.integer least, .integer most]
  | purgeDone cutoff => [.ofInstant cutoff]

end Statement

end Accounts.Database
