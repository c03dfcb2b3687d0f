import Accounts.Json.Decode
import Accounts.Time.Rfc3339
/-!
# Accounts

A user is one account.  An account starts as registered, holds an activation code
until it is activated, and may have a second factor: a secret, a switch and
recovery codes.

The text of a user leaves out everything secret: the internal number, the
password hash, the codes and the secret.
-/

namespace Accounts

/-- Where an account stands in its life. -/
inductive UserStatus
  /-- It waits for its activation code. -/
  | registered
  /-- It can be used. -/
  | activated
deriving DecidableEq, Repr, Inhabited

namespace UserStatus

/-- All states of an account. -/
def all : List UserStatus := [.registered, .activated]

/-- The name of a state. -/
def name : UserStatus → String
  | .registered => "registered"
  | .activated => "activated"

/-- Reads a state by its name. -/
def decoder : Json.Decoder UserStatus := .oneOf all name

end UserStatus

/-- An account. -/
structure User where
  /-- The internal number, which is never shown. -/
  id : Int
  /-- The name that the account is known by outside. -/
  publicId : String
  /-- The address. -/
  email : String
  /-- The first name. -/
  firstName : String
  /-- The last name. -/
  lastName : String
  /-- The hash of the password. -/
  passwordHash : String
  /-- Where the account stands. -/
  status : UserStatus
  /-- The code that activates it. -/
  activationCode : Option String
  /-- The code that allows a new password. -/
  resetPasswordCode : Option String
  /-- The secret of the second factor. -/
  otpSecret : Option String
  /-- The codes that stand in for the second factor, each good for one use. -/
  otpRecoveryCodes : List String
  /-- Whether the second factor is asked for. -/
  otpEnabled : Bool
  /-- When the account was made. -/
  createdAt : Instant
  /-- When it was last changed. -/
  updatedAt : Instant
deriving DecidableEq, Repr, Inhabited

/-- An account that is about to be made. -/
structure NewUser where
  /-- The name that the account will be known by outside. -/
  publicId : String
  /-- The address. -/
  email : String
  /-- The first name. -/
  firstName : String
  /-- The last name. -/
  lastName : String
  /-- The hash of the password. -/
  passwordHash : String
  /-- The code that will activate it. -/
  activationCode : String
  /-- When it is made. -/
  createdAt : Instant
deriving DecidableEq, Repr

/-- An instant as a JSON value. -/
def Instant.json (t : Instant) : Json := .string (t.rfc3339 .zulu)

/-- Reads an instant. -/
def Instant.decoder : Json.Decoder Instant :=
  .formed "an RFC 3339 formatted date and time string" InstantFault.message Instant.parseLenient

namespace User

/-- The account can be used. -/
def isActive (u : User) : Bool := u.status == .activated

/-- The account that a new user becomes, under the given number. -/
def ofNew (id : Int) (n : NewUser) : User where
  id
  publicId := n.publicId
  email := n.email
  firstName := n.firstName
  lastName := n.lastName
  passwordHash := n.passwordHash
  status := .registered
  activationCode := some n.activationCode
  resetPasswordCode := none
  otpSecret := none
  otpRecoveryCodes := []
  otpEnabled := false
  createdAt := n.createdAt
  updatedAt := n.createdAt

/-- The fields of a user that may be shown to anybody. -/
def openFields (u : User) : List (String × Json) := [
  ("public_id", .string u.publicId),
  ("email", .string u.email),
  ("first_name", .string u.firstName),
  ("last_name", .string u.lastName),
  ("status", .string u.status.name),
  ("otp_enabled", .bool u.otpEnabled),
  ("created_at", u.createdAt.json),
  ("updated_at", u.updatedAt.json)]

/-- The fields of a user that stay inside. -/
def secretFields (u : User) : List (String × Json) := [
  ("id", .ofInt u.id),
  ("password_hash", .string u.passwordHash),
  ("activation_code", .ofText? u.activationCode),
  ("reset_password_code", .ofText? u.resetPasswordCode),
  ("otp_secret", .ofText? u.otpSecret),
  ("otp_recovery_codes", .ofTexts u.otpRecoveryCodes)]

/-- A user as JSON, without its secrets. -/
def json (u : User) : Json := .ofFields u.openFields

/-- A user as JSON, with its secrets. -/
def fullJson (u : User) : Json := .ofFields (u.openFields ++ u.secretFields)

open Json Record in
/-- Reads a user. -/
def decoder : Decoder User :=
  Record.decoder "User" <|
    (value User.mk).andThen (field "id" .int64)
      |>.andThen (field "public_id" .text)
      |>.andThen (field "email" .text)
      |>.andThen (field "first_name" .text)
      |>.andThen (field "last_name" .text)
      |>.andThen (field "password_hash" .text)
      |>.andThen (field "status" UserStatus.decoder)
      |>.andThen (field "activation_code" (.optional .text))
      |>.andThen (field "reset_password_code" (.optional .text))
      |>.andThen (field "otp_secret" (.optional .text))
      |>.andThen (field "otp_recovery_codes" (.list .text))
      |>.andThen (field "otp_enabled" .flag)
      |>.andThen (field "created_at" Instant.decoder)
      |>.andThen (field "updated_at" Instant.decoder)

end User

end Accounts
