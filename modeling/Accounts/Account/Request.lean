import Accounts.Email.Address
import Accounts.Json.Decode
/-!
# Requests

A request is what a caller hands in.  Each field obeys at most one rule: it is an
e-mail address, or its number of characters lies between two bounds.  The faults
of a request name the fields that break their rule.
-/

namespace Accounts

/-- What a field has to be. -/
inductive FieldRule
  /-- An e-mail address. -/
  | email
  /-- A text with at least `least` and, if given, at most `most` characters. -/
  | length (least : Nat) (most : Option Nat)
deriving DecidableEq, Repr

/-- A text obeys a rule. -/
def FieldRule.holds : FieldRule → String → Bool
  | .email, s => Email.isAddress s
  | .length least most, s => least ≤ s.length && most.all (s.length ≤ ·)

/-- The name of a rule. -/
def FieldRule.name : FieldRule → String
  | .email => "email"
  | .length _ _ => "length"

/-- The bounds of a rule as JSON. -/
def FieldRule.bounds : FieldRule → List (String × Json)
  | .email => []
  | .length least most =>
    ("min", .ofNat least) :: (most.map fun m => ("max", Json.ofNat m)).toList

/-- A field that breaks its rule. -/
structure FieldFault where
  /-- The name of the field. -/
  field : String
  /-- The rule. -/
  rule : FieldRule
  /-- What the field holds. -/
  value : String
deriving DecidableEq, Repr

/-- The fault of a field, if it has one. -/
def FieldRule.check (r : FieldRule) (field value : String) : List FieldFault :=
  if r.holds value then [] else [⟨field, r, value⟩]

/-- A fault as JSON. -/
def FieldFault.json (f : FieldFault) : Json := .ofFields [
  ("code", .string f.rule.name),
  ("params", .ofFields (("value", .string f.value) :: f.rule.bounds))]

/-- Faults as JSON, each in a list under the name of its field. -/
def faultsJson (faults : List FieldFault) : Json :=
  .ofFields (faults.map fun f => (f.field, .array [f.json]))

/-- The rule for passwords that are set. -/
def passwordRule : FieldRule := .length 6 (some 128)

/-- Asks for a new account. -/
structure RegisterRequest where
  /-- The first name. -/
  firstName : String
  /-- The last name. -/
  lastName : String
  /-- The address. -/
  email : String
  /-- The password. -/
  password : String
deriving DecidableEq, Repr

/-- The faults of a request. -/
def RegisterRequest.faults (r : RegisterRequest) : List FieldFault :=
  (FieldRule.length 1 (some 100)).check "first_name" r.firstName ++
    (FieldRule.length 1 (some 100)).check "last_name" r.lastName ++
    FieldRule.email.check "email" r.email ++
    passwordRule.check "password" r.password

/-- The first step of a login. -/
structure CredentialRequest where
  /-- The address. -/
  email : String
  /-- The password. -/
  password : String
deriving DecidableEq, Repr

/-- The faults of a request. -/
def CredentialRequest.faults (r : CredentialRequest) : List FieldFault :=
  FieldRule.email.check "email" r.email ++ (FieldRule.length 1 none).check "password" r.password

/-- Asks for a reset code. -/
structure PasswordResetRequest where
  /-- The address. -/
  email : String
deriving DecidableEq, Repr

/-- The faults of a request. -/
def PasswordResetRequest.faults (r : PasswordResetRequest) : List FieldFault :=
  FieldRule.email.check "email" r.email

/-- Sets a password with a reset code. -/
structure ResetPasswordRequest where
  /-- The reset code. -/
  resetCode : String
  /-- The new password. -/
  password : String
deriving DecidableEq, Repr

/-- The faults of a request. -/
def ResetPasswordRequest.faults (r : ResetPasswordRequest) : List FieldFault :=
  (FieldRule.length 1 none).check "reset_code" r.resetCode ++
    passwordRule.check "password" r.password

/-- Sets a password with a token. -/
structure ChangePasswordRequest where
  /-- The new password. -/
  password : String
deriving DecidableEq, Repr

/-- The faults of a request. -/
def ChangePasswordRequest.faults (r : ChangePasswordRequest) : List FieldFault :=
  passwordRule.check "password" r.password

/-- A code of the second factor, or a recovery code. -/
structure TwoFaCodeRequest where
  /-- The code. -/
  code : String
deriving DecidableEq, Repr

/-- The faults of a request. -/
def TwoFaCodeRequest.faults (r : TwoFaCodeRequest) : List FieldFault :=
  (FieldRule.length 6 (some 6)).check "code" r.code

open Json Record

/-- Reads a request for a new account. -/
def RegisterRequest.decoder : Decoder RegisterRequest :=
  Record.decoder "RegisterRequest" <|
    (value RegisterRequest.mk).andThen (field "first_name" .text)
      |>.andThen (field "last_name" .text)
      |>.andThen (field "email" .text)
      |>.andThen (field "password" .text)

/-- Reads the first step of a login. -/
def CredentialRequest.decoder : Decoder CredentialRequest :=
  Record.decoder "CredentialRequest" <|
    (value CredentialRequest.mk).andThen (field "email" .text)
      |>.andThen (field "password" .text)

/-- Reads a request for a reset code. -/
def PasswordResetRequest.decoder : Decoder PasswordResetRequest :=
  Record.decoder "PasswordResetRequest" <|
    (value PasswordResetRequest.mk).andThen (field "email" .text)

/-- Reads a request that uses a reset code. -/
def ResetPasswordRequest.decoder : Decoder ResetPasswordRequest :=
  Record.decoder "ResetPasswordRequest" <|
    (value ResetPasswordRequest.mk).andThen (field "reset_code" .text)
      |>.andThen (field "password" .text)

/-- Reads a request for another password. -/
def ChangePasswordRequest.decoder : Decoder ChangePasswordRequest :=
  Record.decoder "ChangePasswordRequest" <|
    (value ChangePasswordRequest.mk).andThen (field "password" .text)

/-- Reads a code of the second factor. -/
def TwoFaCodeRequest.decoder : Decoder TwoFaCodeRequest :=
  Record.decoder "TwoFaCodeRequest" <|
    (value TwoFaCodeRequest.mk).andThen (field "code" .text)

end Accounts
