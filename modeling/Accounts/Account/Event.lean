import Accounts.Outbox.Envelope
/-!
# Account events

Three things about an account are announced: that it was made or changed, that a
new account needs its activation mail, and that a reset code was issued.  The
topics and the names of the fields are a contract with those who listen.  No
event says anything about the password or the second factor.
-/

namespace Accounts

/-- A snapshot of an account after it was made or changed. -/
structure UserChanged where
  /-- The name that the account is known by. -/
  publicId : String
  /-- The address. -/
  email : String
  /-- The first name. -/
  firstName : String
  /-- The last name. -/
  lastName : String
  /-- Where the account stands. -/
  status : UserStatus
  /-- When it was made. -/
  createdAt : Instant
  /-- When it was last changed. -/
  updatedAt : Instant
deriving DecidableEq, Repr

/-- A new account needs its activation mail. -/
structure UserRegistered where
  /-- The name that the account is known by. -/
  publicId : String
  /-- The address. -/
  email : String
  /-- The code to be mailed. -/
  activationCode : String
deriving DecidableEq, Repr

/-- A reset code was issued. -/
structure UserResetPassword where
  /-- The name that the account is known by. -/
  publicId : String
  /-- The address. -/
  email : String
  /-- The code to be mailed. -/
  resetPasswordCode : String
deriving DecidableEq, Repr

/-- The snapshot of a user. -/
def UserChanged.ofUser (u : User) : UserChanged where
  publicId := u.publicId
  email := u.email
  firstName := u.firstName
  lastName := u.lastName
  status := u.status
  createdAt := u.createdAt
  updatedAt := u.updatedAt

/-- An announcement about an account. -/
inductive AccountEvent
  /-- The account was made or changed. -/
  | changed (event : UserChanged)
  /-- The account needs its activation mail. -/
  | registered (event : UserRegistered)
  /-- A reset code was issued. -/
  | resetPassword (event : UserResetPassword)
deriving DecidableEq, Repr

namespace AccountEvent

/-- The topic of snapshots. -/
def changedTopic : String := "user.cud.changed"
/-- The topic of new accounts. -/
def registeredTopic : String := "user.be.registered"
/-- The topic of reset codes. -/
def resetPasswordTopic : String := "user.be.reset_password"

/-- Where an event goes. -/
def topic : AccountEvent → String
  | .changed _ => changedTopic
  | .registered _ => registeredTopic
  | .resetPassword _ => resetPasswordTopic

/-- An event as JSON. -/
def json : AccountEvent → Json
  | .changed e => .ofFields [
      ("public_id", .string e.publicId),
      ("email", .string e.email),
      ("first_name", .string e.firstName),
      ("last_name", .string e.lastName),
      ("status", .string e.status.name),
      ("created_at", e.createdAt.json),
      ("updated_at", e.updatedAt.json)]
  | .registered e => .ofFields [
      ("public_id", .string e.publicId),
      ("email", .string e.email),
      ("activation_code", .string e.activationCode)]
  | .resetPassword e => .ofFields [
      ("public_id", .string e.publicId),
      ("email", .string e.email),
      ("reset_password_code", .string e.resetPasswordCode)]

/-- The envelope of an event. -/
def envelope (e : AccountEvent) : Outbox.NewEnvelope := ⟨e.topic, e.json⟩

open Json Record

/-- Reads a snapshot. -/
def changedDecoder : Decoder UserChanged :=
  Record.decoder "UserChangedEvent" <|
    (value UserChanged.mk).andThen (field "public_id" .text)
      |>.andThen (field "email" .text)
      |>.andThen (field "first_name" .text)
      |>.andThen (field "last_name" .text)
      |>.andThen (field "status" UserStatus.decoder)
      |>.andThen (field "created_at" Instant.decoder)
      |>.andThen (field "updated_at" Instant.decoder)

/-- Reads the announcement of a new account. -/
def registeredDecoder : Decoder UserRegistered :=
  Record.decoder "UserRegisteredEvent" <|
    (value UserRegistered.mk).andThen (field "public_id" .text)
      |>.andThen (field "email" .text)
      |>.andThen (field "activation_code" .text)

/-- Reads the announcement of a reset code. -/
def resetPasswordDecoder : Decoder UserResetPassword :=
  Record.decoder "UserResetPasswordEvent" <|
    (value UserResetPassword.mk).andThen (field "public_id" .text)
      |>.andThen (field "email" .text)
      |>.andThen (field "reset_password_code" .text)

end AccountEvent

/-- The events that are stored together with a new account. -/
def registrationEvents (n : NewUser) : List AccountEvent :=
  [.changed {
      publicId := n.publicId, email := n.email, firstName := n.firstName, lastName := n.lastName
      status := .registered, createdAt := n.createdAt, updatedAt := n.createdAt },
   .registered { publicId := n.publicId, email := n.email, activationCode := n.activationCode }]

end Accounts
