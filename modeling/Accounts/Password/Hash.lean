import Accounts.Account.Error
import Accounts.Crypto.Argon2
import Accounts.Password.Phc
/-!
# Hashing and checking passwords

A password is hashed with the hybrid variant of Argon2, 19 MiB of memory, two
passes, one lane and a salt of 16 bytes, to 32 bytes.  Checking takes variant,
version, parameters, salt and length from the stored hash and hashes the given
password in the same way.  A hash without salt or digest matches no password.

Which fault of a stored hash counts follows the order in which it is taken apart:
the parameters one after another, their bounds, the algorithm, the version, the
salt.
-/

namespace Accounts.Password

open Crypto

/-- The cost of new hashes. -/
def defaultCost : Argon2.Cost := ⟨19456, 2, 1⟩

/-- The length of new hashes. -/
def defaultSize : Nat := 32

/-- The name of a variant. -/
def variantName : Argon2.Variant → String
  | .dependent => "argon2d"
  | .independent => "argon2i"
  | .hybrid => "argon2id"

/-- The variant of a name. -/
def variantOf? (name : List Char) : Option Argon2.Variant :=
  [Argon2.Variant.dependent, .independent, .hybrid].find? fun v => (variantName v).toList = name

/-- The version of a number. -/
def versionOf? (n : Nat) : Option Argon2.Version :=
  [Argon2.Version.v10, .v13].find? fun v => v.code = n

/-- The hash of a password as it is stored. -/
def hashed (password : String) (salt : List UInt8) : Phc :=
  let p : Argon2.Params := ⟨.hybrid, .v13, defaultCost, defaultSize, []⟩
  { algorithm := (variantName p.variant).toList
    version := some p.version.code
    params := [(['m'], Nat.toDigits 10 p.cost.memory), (['t'], Nat.toDigits 10 p.cost.passes),
      (['p'], Nat.toDigits 10 p.cost.lanes)]
    salt := some (Bytes.Base64.encode .standard salt)
    hash := some (Crypto.Argon2.hash p (Bytes.ofText password) salt) }

/-- The text of the hash of a password. -/
def hash (password : String) (salt : List UInt8) : String := (hashed password salt).text

/-- The parameters read so far. -/
structure ReadParams where
  /-- The cost. -/
  cost : Argon2.Cost
  /-- Data that is hashed along. -/
  data : List UInt8

/-- Reads one parameter. -/
def ReadParams.step (r : ReadParams) (name value : List Char) : Except PhcFault ReadParams :=
  let number := (readDecimal value).mapError PhcFault.paramValue
  if name = ['m'] then number.map fun n => { r with cost := { r.cost with memory := n } }
  else if name = ['t'] then number.map fun n => { r with cost := { r.cost with passes := n } }
  else if name = ['p'] then number.map fun n => { r with cost := { r.cost with lanes := n } }
  else if name = "keyid".toList then (decodeBase64 8 value).map fun _ => r
  else if name = "data".toList then (decodeBase64 32 value).map fun bs => { r with data := bs }
  else .error .paramName

/-- Reads all parameters. -/
def ReadParams.run (r : ReadParams) : List (List Char × List Char) → Except PhcFault ReadParams
  | [] => .ok r
  | (name, value) :: rest => (r.step name value).bind fun next => next.run rest

/-- Checks the bounds of a cost. -/
def checkCost (c : Argon2.Cost) : Except PhcFault Unit :=
  if c.memory < 8 ∨ c.memory < c.lanes * 8 then .error (.paramValue .tooShort)
  else if c.passes < 1 then .error (.paramValue .tooShort)
  else if c.lanes < 1 then .error (.paramValue .tooShort)
  else if 0xFFFFFF < c.lanes then .error (.paramValue .tooLong)
  else .ok ()

/-- The digest of a password under the algorithm and the parameters of a stored hash. -/
def digest (h : Phc) (salt : List Char) (size : Nat) (password : String) :
    Except PhcFault (List UInt8) := do
  let r ← (ReadParams.mk defaultCost []).run h.params
  checkCost r.cost
  let some variant := variantOf? h.algorithm | throw .algorithm
  let some version := (match h.version with
    | none => some Argon2.Version.v13
    | some n => versionOf? n) | throw .version
  let salt ← decodeBase64 64 salt
  if salt.length < 8 then throw (.salt .tooShort)
  return Crypto.Argon2.hash ⟨variant, version, r.cost, size, r.data⟩ (Bytes.ofText password) salt

/-- A password fits a stored hash. -/
def matchesPhc (h : Phc) (password : String) : Except PhcFault Bool :=
  match h.salt, h.hash with
  | some salt, some expected => (digest h salt expected.length password).map (· == expected)
  | _, _ => .ok false

/-- Checks a password against the text of a stored hash. -/
def verify (password storedHash : String) : Except AccountError Bool :=
  match Phc.parse storedHash with
  | .error f => .error (.internal ("Invalid password hash format: " ++ f.message))
  | .ok h =>
    (matchesPhc h password).mapError fun f =>
      .internal ("Password verification failed: " ++ f.message)

end Accounts.Password
