import Accounts.Operation.Basic
import Accounts.Password.Hash
import Accounts.Settings.Basic
/-!
# Logging in

The first step checks address and password.  When the account has a second factor
and anyone is asked for one, the token of the first step is good for the second
step alone; the second step takes a current code or a recovery code, which is used
up by that before the token is signed.

An unknown address, a wrong password and an account that is not active are told
in the same way.
-/

namespace Accounts

/-- How logins work. -/
structure LoginPolicy where
  /-- Whether anyone is asked for a second factor. -/
  otpEnabled : Bool
  /-- The lifetime of a token for everything. -/
  sessionTtl : Span
  /-- The lifetime of a token for the second step. -/
  twoFaTtl : Span
deriving DecidableEq, Repr

/-- The policy that settings ask for. -/
def LoginPolicy.ofSettings (s : Settings) : LoginPolicy :=
  ⟨s.otp.enabled, s.jwt.ttl, s.jwt.twoFaTtl⟩

/-- What a login replies. -/
structure AuthToken where
  /-- The token. -/
  authToken : String
  /-- When it expires. -/
  expireAt : Instant
  /-- The second step is still to come. -/
  twoFaRequired : Bool
deriving DecidableEq, Repr

/-- A reply to a login as JSON. -/
def AuthToken.json (t : AuthToken) : Json := .ofFields [
  ("auth_token", .string t.authToken),
  ("expire_at", t.expireAt.json),
  ("two_fa_required", .bool t.twoFaRequired)]

namespace Operation

/-- The claims of a token for a user. -/
def claimsFor (u : User) (scope : Scope) (now : Instant) (ttl : Span) : Claims :=
  .issue u.publicId u.email [scope] now ttl

/-- A token for a user. -/
def issue (u : User) (scope : Scope) (now : Instant) (ttl : Span) (twoFaRequired : Bool) :
    Operation AuthToken := do
  let claims := claimsFor u scope now ttl
  let token ← sign claims
  return ⟨token, claims.expiresAt, twoFaRequired⟩

/-- The first step of a login. -/
def authenticate (p : LoginPolicy) (r : CredentialRequest) (now : Instant) :
    Operation AuthToken := do
  validate r.faults
  let u ← orFail .invalidCredentials (← users (.findByEmail r.email))
  let fits ← ofExcept (Password.verify r.password u.passwordHash)
  ensure (fits && u.isActive) .invalidCredentials
  if p.otpEnabled && u.otpEnabled then issue u .twoFaCheck now p.twoFaTtl true
  else issue u .user now p.sessionTtl false

/-- A code is a current one of a user. -/
def isCurrentCode (u : User) (code : String) : Operation Bool :=
  match u.otpSecret with
  | some secret => otp (.validate secret code)
  | none => pure false

/-- The second step of a login.  Nothing results when nobody is asked for a second factor. -/
def authenticateTwoFa (p : LoginPolicy) (claims : Claims) (r : TwoFaCodeRequest) (now : Instant) :
    Operation (Option AuthToken) := do
  if !p.otpEnabled then return none
  ofExcept (claims.require .twoFaCheck)
  ensure r.faults.isEmpty .invalidOtpCode
  let u ← orFail .invalidToken (← users (.findByPublicId claims.sub))
  ensure u.isActive .invalidCredentials
  if !(← isCurrentCode u r.code) then
    ensure (← users (.consumeRecoveryCode u.id r.code)) .invalidOtpCode
  return some (← issue u .user now p.sessionTtl false)

end Operation

end Accounts
