import Accounts.Dialogue
import Accounts.Directory.Call
import Accounts.Otp.Engine
import Accounts.Token.Claims
/-!
# Account operations

An operation is a dialogue with a directory of users, with an engine for the second
factor and with a signer of tokens.  It ends with a result or with the first error
that it meets.  What is new in an operation, such as codes, salts and the current
instant, is handed to it.

Everything that an operation does not ask for has no influence on it: nothing is
asked before the claims are found to carry the scope that they need.
-/

namespace Accounts

/-- A question of an operation. -/
inductive ServiceCall
  /-- A request to the directory of users. -/
  | users (request : DirectoryCall)
  /-- A request to the engine for the second factor. -/
  | otp (request : OtpCall)
  /-- A token with the given claims. -/
  | sign (claims : Claims)

/-- What a question that succeeds is replied. -/
def ServiceCall.Result : ServiceCall → Type
  | users c => c.Result
  | otp c => c.Result
  | sign _ => String

/-- The surroundings of an operation. -/
def serviceSurroundings : Interface := ⟨ServiceCall, fun c => Except AccountError c.Result⟩

/-- An operation with results of type `α`. -/
abbrev Operation (α : Type) := ExceptT AccountError (Dialogue serviceSurroundings) α

namespace Operation

/-- Asks the directory of users. -/
def users (c : DirectoryCall) : Operation c.Result :=
  ExceptT.mk (Dialogue.query (I := serviceSurroundings) (.users c))

/-- Asks the engine for the second factor. -/
def otp (c : OtpCall) : Operation c.Result :=
  ExceptT.mk (Dialogue.query (I := serviceSurroundings) (.otp c))

/-- Asks for a token. -/
def sign (c : Claims) : Operation String :=
  ExceptT.mk (Dialogue.query (I := serviceSurroundings) (.sign c))

/-- An operation that asks nothing. -/
def ofExcept {α : Type} (r : Except AccountError α) : Operation α := ExceptT.mk (.done r)

/-- Goes on with what is there, or fails. -/
def orFail {α : Type} (e : AccountError) : Option α → Operation α
  | some a => pure a
  | none => throw e

/-- Fails unless a condition holds. -/
def ensure (condition : Bool) (e : AccountError) : Operation Unit :=
  if condition then pure () else throw e

/-- Refuses a request that has faults. -/
def validate (faults : List FieldFault) : Operation Unit :=
  ensure faults.isEmpty (.validation (.fields faults))

/-- The account behind claims that are good for everything. -/
def profile (claims : Claims) : Operation User := do
  ofExcept (claims.require .user)
  orFail .userNotFound (← users (.findByPublicId claims.sub))

end Operation

end Accounts
