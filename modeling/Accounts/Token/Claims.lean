import Accounts.Account.Error
import Accounts.Time.Rfc3339
/-!
# Claims

A token says who its bearer is and what it may be used for.  Instead of a type it
carries scopes: one is good for everything, the other only for the second step of
a login.

A lifetime that would leave the range of instants is cut at the last one, and an
expiry out of that range is read as the first one, so that it has passed.
-/

namespace Accounts

/-- What a token may be used for. -/
inductive Scope
  /-- Everything that a user may do. -/
  | user
  /-- The second step of a login. -/
  | twoFaCheck
deriving DecidableEq, Repr, Inhabited

namespace Scope

/-- All scopes. -/
def all : List Scope := [.user, .twoFaCheck]

/-- The name of a scope. -/
def name : Scope → String
  | .user => "user"
  | .twoFaCheck => "2fa-check"

/-- Reads a scope by its name. -/
def decoder : Json.Decoder Scope := .oneOf all name

end Scope

/-- What a token says. -/
structure Claims where
  /-- The public name of the account. -/
  sub : String
  /-- The address. -/
  email : String
  /-- What the token may be used for. -/
  scp : List Scope
  /-- The second in which it was issued. -/
  iat : Int
  /-- The second in which it expires. -/
  exp : Int
deriving DecidableEq, Repr

namespace Claims

/-- The instant at which a token expires that is issued now. -/
def expiry (issuedAt : Instant) (ttl : Span) : Instant :=
  if Instant.fits ttl then (issuedAt.add? ttl).getD Instant.last else Instant.last

/-- The claims of a token that is issued now. -/
def issue (publicId email : String) (scopes : List Scope) (issuedAt : Instant) (ttl : Span) :
    Claims where
  sub := publicId
  email
  scp := scopes
  iat := issuedAt.seconds
  exp := (expiry issuedAt ttl).seconds

/-- The claims carry a scope. -/
def hasScope (c : Claims) (s : Scope) : Bool := c.scp.contains s

/-- The instant at which the claims expire. -/
def expiresAt (c : Claims) : Instant := (Instant.ofSeconds? c.exp).getD Instant.first

/-- Refuses claims without a scope. -/
def require (c : Claims) (s : Scope) : Except AccountError Unit :=
  if c.hasScope s then .ok () else .error (.insufficientScope s.name)

/-- The claims as JSON. -/
def json (c : Claims) : Json := .ofFields [
  ("sub", .string c.sub),
  ("email", .string c.email),
  ("scp", .array (c.scp.map fun s => .string s.name)),
  ("iat", .ofInt c.iat),
  ("exp", .ofInt c.exp)]

open Json Record in
/-- The fields of claims. -/
def record : Record Claims :=
  (value Claims.mk).andThen (field "sub" .text)
    |>.andThen (field "email" .text)
    |>.andThen (field "scp" (.list Scope.decoder))
    |>.andThen (field "iat" .int64)
    |>.andThen (field "exp" .int64)

/-- Reads claims. -/
def decoder : Json.Decoder Claims := record.decoder "Claims"

theorem expiresAt_of_inRange {c : Claims}
    (h : Instant.firstSecond ≤ c.exp ∧ c.exp ≤ Instant.lastSecond) :
    c.expiresAt = Instant.ofSeconds c.exp := by
  simp [expiresAt, Instant.ofSeconds?, Instant.ofSeconds, h]

end Claims

end Accounts
