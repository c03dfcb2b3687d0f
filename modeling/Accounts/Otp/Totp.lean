import Accounts.Account.Error
import Accounts.Bytes.Base32
import Accounts.Bytes.Percent
import Accounts.Crypto.Hmac
import Accounts.Text.Integer
import Accounts.Text.Parts
/-!
# Codes that depend on the time

Time is cut into steps of 30 seconds.  The code of a step is six digits taken
from the keyed hash of its number; the key is a secret that is written to base
32 and has at least 16 bytes.  A code is accepted when it is that of the current
step or of one of a few steps around it.  Seconds and steps are words of 64 bits,
and counting them goes round, as it does where a build does not check for that.

A secret is handed over as an address that names the issuer and the account, the
secret and the form of the codes.
-/

namespace Accounts.Otp

/-- The number of digits of a code. -/
def digits : Nat := 6

/-- The seconds in a step. -/
def stepSeconds : Nat := 30

/-- The fewest bytes of a secret. -/
def leastSecret : Nat := 16

/-- Makes and checks codes. -/
structure Totp where
  /-- Who issues the codes. -/
  issuer : String
  /-- How many steps around the current one are accepted. -/
  skew : Nat
deriving DecidableEq, Repr

/-- What a user needs to set up an authenticator. -/
structure OtpSetup where
  /-- The secret, to base 32. -/
  secret : String
  /-- The address that an authenticator reads. -/
  provisioningUri : String
deriving DecidableEq, Repr

/-- The code that a keyed hash is cut to. -/
def truncated (mac : List UInt8) : String :=
  let offset := (mac.getLastD 0).toNat % 16
  let n := Bytes.ofBigEndian ((mac.drop offset).take 4) % Nat.pow 2 31
  Text.paddedText digits (n % Nat.pow 10 digits)

/-- The code of a step. -/
def stepCode (key : List UInt8) (step : Nat) : String :=
  truncated (Crypto.hmac Crypto.sha512 key (Bytes.bigEndian 8 step))

/-- A secret as bytes. -/
def decodeSecret (secret : String) : Except AccountError (List UInt8) :=
  match Bytes.Base32.decode secret.toList with
  | some bs => .ok bs
  | none => .error (.internal "Invalid TOTP secret: Could not decode base32 secret.")

/-- Refuses a secret that is too short, and names with a colon. -/
def Totp.check (t : Totp) (key : List UInt8) (account : String) : Except AccountError Unit :=
  if key.length < leastSecret then
    .error (.internal ("TOTP init failed: The length of the shared secret MUST be at least " ++
      "128 bits. " ++ toString (key.length * 8) ++ " bits is not enough"))
  else if t.issuer.toList.contains ':' then
    .error (.internal ("TOTP init failed: Issuer can't contain a colon. \"" ++ t.issuer ++
      "\" contains a colon"))
  else if account.toList.contains ':' then
    .error (.internal ("TOTP init failed: Account Name can't contain a colon. \"" ++ account ++
      "\" contains a colon"))
  else .ok ()

/-- The bytes of a secret that can be used. -/
def Totp.key (t : Totp) (secret : String) : Except AccountError (List UInt8) := do
  let key ← decodeSecret secret
  t.check key "verify"
  return key

/-- The step of a second. -/
def stepOf (seconds : UInt64) : UInt64 := seconds / .ofNat stepSeconds

/-- The first second of a step. -/
def startOf (step : UInt64) : UInt64 := step * .ofNat stepSeconds

/-- The code of a key at a second. -/
def keyCode (key : List UInt8) (seconds : UInt64) : String := stepCode key (stepOf seconds).toNat

/-- The code of a secret at a second. -/
def Totp.codeAt (t : Totp) (secret : String) (seconds : UInt64) : Except AccountError String :=
  (t.key secret).map fun key => keyCode key seconds

/-- A text that has the form of a code. -/
def isCode (code : String) : Bool :=
  code.length == digits && code.toList.all Char.isDigit

/-- A code is that of a step around the current one.  The steps are counted up from
the first of them. -/
def Totp.accepts (t : Totp) (key : List UInt8) (code : String) (seconds : UInt64) : Bool :=
  let first := stepOf seconds - .ofNat t.skew
  (List.range (2 * t.skew + 1)).any fun i => keyCode key (startOf (first + .ofNat i)) == code

/-- Checks a code at a second.  A text that has not the form of a code is refused
before the secret is looked at. -/
def Totp.validateAt (t : Totp) (secret code : String) (seconds : UInt64) :
    Except AccountError Bool :=
  if isCode code then (t.key secret).map fun key => t.accepts key code seconds
  else .ok false

/-- The address of a secret, without the number of digits. -/
def Totp.address (t : Totp) (secret account : String) : String :=
  "otpauth://totp/" ++ Bytes.Percent.encodeText t.issuer ++ ":" ++
    Bytes.Percent.encodeText account ++ "?secret=" ++ secret ++ "&algorithm=SHA512&issuer=" ++
    Bytes.Percent.encodeText t.issuer

/-- The address of a secret.  The number of digits is added unless the address names it. -/
def Totp.uri (t : Totp) (secret account : String) : String :=
  let address := t.address secret account
  if Text.occursIn "digits=" address then address
  else address ++ "&digits=" ++ toString digits

/-- The secret of random bytes, and its address. -/
def Totp.generate (t : Totp) (bytes : List UInt8) (account : String) :
    Except AccountError OtpSetup := do
  t.check bytes account
  let secret := String.ofList (Bytes.Base32.encode bytes)
  return ⟨secret, t.uri secret account⟩

end Accounts.Otp
