import Accounts.Operation.Basic
import Accounts.Password.Hash
import Accounts.Text.Blank
/-!
# Registering and activating

A new account is stored with its two announcements in one request, and so is the
activation of an account with its one.
-/

namespace Accounts.Operation

/-- What a registration takes from outside. -/
structure NewAccount where
  /-- The name that the account will be known by outside. -/
  publicId : String
  /-- The code that will activate it. -/
  activationCode : String
  /-- The salt of the password. -/
  salt : List UInt8
  /-- The current instant. -/
  now : Instant

/-- The user that a request for an account asks for. -/
def newUser (r : RegisterRequest) (a : NewAccount) : NewUser where
  publicId := a.publicId
  email := Text.trim r.email
  firstName := r.firstName
  lastName := r.lastName
  passwordHash := Password.hash r.password a.salt
  activationCode := a.activationCode
  createdAt := a.now

/-- Makes an account that waits for its activation code. -/
def register (r : RegisterRequest) (a : NewAccount) : Operation User := do
  validate r.faults
  let n := newUser r a
  users (.create n ((registrationEvents n).map AccountEvent.envelope))

/-- A user after its activation. -/
def activated (u : User) (now : Instant) : User :=
  { u with status := .activated, activationCode := none, updatedAt := now }

/-- Activates the account that waits for a code. -/
def activate (code : String) (now : Instant) : Operation Unit := do
  let u ← orFail .invalidActivationCode (← users (.findByActivationCode code))
  let event := AccountEvent.changed (.ofUser (activated u now))
  ensure (← users (.activate code now [event.envelope])) .invalidActivationCode

end Accounts.Operation
