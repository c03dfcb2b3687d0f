import Accounts.Otp.RecoveryCode
import Accounts.Otp.Totp
/-!
# Engines for the second factor

An engine makes secrets, checks codes and makes recovery codes.  One engine works
with codes that depend on the time; it takes the time and what is left to chance
from outside.  The other numbers its secrets, and the code of a secret is its
number; it is for trying things out, and has no code for a secret that it did not
make.
-/

namespace Accounts

/-- A request to an engine. -/
inductive OtpCall
  /-- A secret for an account. -/
  | generate (account : String)
  /-- Whether a code fits a secret. -/
  | validate (secret code : String)
  /-- A set of recovery codes. -/
  | recoveryCodes (count : Nat)
deriving DecidableEq, Repr

/-- What a request that succeeds replies. -/
def OtpCall.Result : OtpCall → Type
  | generate _ => Otp.OtpSetup
  | validate _ _ => Bool
  | recoveryCodes _ => List String

namespace Otp

/-- What an engine takes from outside. -/
structure Chance where
  /-- The bytes of the next secret. -/
  secretBytes : List UInt8
  /-- Draws for recovery codes. -/
  draws : List Nat
  /-- The current second. -/
  seconds : UInt64

/-- Replies to a request.  Without enough draws there are no recovery codes. -/
def Totp.reply (t : Totp) (c : Chance) : (q : OtpCall) → Except AccountError q.Result
  | .generate account => t.generate c.secretBytes account
  | .validate secret code => t.validateAt secret code c.seconds
  | .recoveryCodes count => (RecoveryCode.generate count c.draws).map (·.getD [])

/-- An engine that numbers its secrets. -/
structure Numbered where
  /-- How many secrets it made. -/
  secrets : Nat
  /-- How many sets of recovery codes it made. -/
  batches : Nat
deriving DecidableEq, Repr, Inhabited

namespace Numbered

/-- What a numbered secret starts with. -/
def mark : List Char := "secret-".toList

/-- A text without the marks that it starts with, of which there are at most `fuel`. -/
def unmarked : Nat → List Char → List Char
  | 0, cs => cs
  | fuel + 1, cs => if mark.isPrefixOf cs then unmarked fuel (cs.drop mark.length) else cs

/-- The code of a secret, if it has one. -/
def code? (secret : String) : Option String :=
  let cs := unmarked secret.length secret.toList
  (Text.readChars .nat32 cs).toOption.map fun n =>
    Text.paddedText digits n.toNat

/-- The secret of a number. -/
def secret (n : Nat) : String := String.ofList mark ++ toString n

/-- The recovery codes of a set. -/
def codes (batch count : Nat) : List String :=
  (List.range count).map fun i => toString (900000 + batch * 1000 + i)

/-- Replies to a request; there is no reply about a secret without a code. -/
def reply (e : Numbered) : (q : OtpCall) → Option q.Result × Numbered
  | .generate account =>
    let s := secret (e.secrets + 1)
    (some (⟨s, "otpauth://totp/Test:" ++ account ++ "?secret=" ++ s⟩ : OtpSetup),
      { e with secrets := e.secrets + 1 })
  | .validate secret code => ((code? secret).map (· == code), e)
  | .recoveryCodes count => (some (codes e.batches count), { e with batches := e.batches + 1 })

end Numbered

end Otp

end Accounts
