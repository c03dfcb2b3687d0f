import Accounts.Account.Request
import Accounts.Outbox.Error
/-!
# Account errors

The errors of the account operations, the coarse kind of each, and the message
that may be shown to a caller.  Errors of the storage and of signing show nothing
of what went wrong inside, and a rejected token is always described in the same
way.
-/

namespace Accounts

open Outbox (OutboxError)

/-- What is wrong with a request. -/
inductive Invalidity
  /-- Fields break their rules. -/
  | fields (faults : List FieldFault)
  /-- The request is wrong in another way. -/
  | text (reason : String)
deriving DecidableEq, Repr

/-- One fault in words. -/
def FieldFault.message (f : FieldFault) : String :=
  f.field ++ ": Validation error: " ++ f.rule.name

/-- What is wrong, in words. -/
def Invalidity.message : Invalidity → String
  | .fields faults => "\n".intercalate (faults.map FieldFault.message)
  | .text reason => reason

/-- Why an account operation failed. -/
inductive AccountError
  /-- The address is unknown, the password wrong or the account not active. -/
  | invalidCredentials
  /-- There is no such user. -/
  | userNotFound
  /-- The address has an account already. -/
  | emailAlreadyExists
  /-- No account waits for this activation code. -/
  | invalidActivationCode
  /-- No account has this reset code. -/
  | invalidResetCode
  /-- The token is not accepted. -/
  | invalidToken
  /-- The token does not allow this. -/
  | insufficientScope (scope : String)
  /-- The code of the second factor is wrong. -/
  | invalidOtpCode
  /-- The second factor was not set up yet. -/
  | twoFaNotInitiated
  /-- The request is malformed. -/
  | validation (invalidity : Invalidity)
  /-- The database failed. -/
  | database (reason : String)
  /-- The outbox failed. -/
  | outbox (reason : String)
  /-- Signing failed or a key cannot be used. -/
  | jwt (reason : String)
  /-- Something inside failed. -/
  | internal (reason : String)
deriving DecidableEq, Repr

/-- The coarse kind of an error. -/
inductive ErrorKind
  /-- Malformed or missing input. -/
  | validation
  /-- A duplicate. -/
  | conflict
  /-- An unknown code or user. -/
  | notFound
  /-- Rejected credentials, codes or tokens. -/
  | authRejected
  /-- A failure of storage or signing. -/
  | internal
deriving DecidableEq, Repr

/-- The name of a kind. -/
def ErrorKind.name : ErrorKind → String
  | .validation => "Validation"
  | .conflict => "Conflict"
  | .notFound => "NotFound"
  | .authRejected => "AuthRejected"
  | .internal => "Internal"

namespace AccountError

/-- The name of an error. -/
def name : AccountError → String
  | .invalidCredentials => "InvalidCredentials"
  | .userNotFound => "UserNotFound"
  | .emailAlreadyExists => "EmailAlreadyExists"
  | .invalidActivationCode => "InvalidActivationCode"
  | .invalidResetCode => "InvalidResetCode"
  | .invalidToken => "InvalidToken"
  | .insufficientScope _ => "InsufficientScope"
  | .invalidOtpCode => "InvalidOtpCode"
  | .twoFaNotInitiated => "TwoFaNotInitiated"
  | .validation _ => "Validation"
  | .database _ => "Database"
  | .outbox _ => "Outbox"
  | .jwt _ => "JwtError"
  | .internal _ => "Internal"

/-- The message of an error. -/
def message : AccountError → String
  | .invalidCredentials => "incorrect user and password"
  | .userNotFound => "User not found"
  | .emailAlreadyExists => "Email already exists"
  | .invalidActivationCode => "Invalid activation code"
  | .invalidResetCode => "Invalid password reset code"
  | .invalidToken => "Invalid token"
  | .insufficientScope scope => "Token lacks required scope: " ++ scope
  | .invalidOtpCode => "invalid otp code"
  | .twoFaNotInitiated => "Two FA enrollment not started"
  | .validation i => "Validation error: " ++ i.message
  | .database reason => "Database error: " ++ reason
  | .outbox reason => "Outbox error: " ++ reason
  | .jwt reason => "JWT error: " ++ reason
  | .internal reason => "Internal server error: " ++ reason

/-- The kind of an error. -/
def kind : AccountError → ErrorKind
  | .validation _ | .twoFaNotInitiated => .validation
  | .emailAlreadyExists => .conflict
  | .invalidActivationCode | .invalidResetCode | .userNotFound => .notFound
  | .invalidCredentials | .invalidToken | .insufficientScope _ | .invalidOtpCode => .authRejected
  | .database _ | .outbox _ | .jwt _ | .internal _ => .internal

/-- The message that may be shown to a caller. -/
def publicMessage (e : AccountError) : String :=
  match e.kind with
  | .internal => "Internal server error"
  | .authRejected =>
    match e with
    | .invalidOtpCode | .invalidCredentials => e.message
    | _ => "Invalid or expired token"
  | _ => e.message

/-- An error as JSON. -/
def json (e : AccountError) : Json := .ofFields [
  ("error", .string e.name),
  ("kind", .string e.kind.name),
  ("message", .string e.message),
  ("public", .string e.publicMessage)]

/-- An error of the database as an error of an account operation. -/
def ofDatabase (e : DatabaseError) : AccountError := .database e.message

/-- An error of the outbox as an error of an account operation. -/
def ofOutbox (e : OutboxError) : AccountError := .outbox e.message

/-- Content without a JSON form as an error of an account operation. -/
def ofSerialization (reason : String) : AccountError :=
  .internal ("Serialization failed: " ++ reason)

end AccountError

end Accounts
