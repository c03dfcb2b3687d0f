import Accounts.Operation.Basic
/-!
# Enrolling a second factor

The first step stores a new secret at once but leaves the second factor as it is.
The second step takes a code of that secret and turns the second factor on, unless
the secret has been replaced in between.
-/

namespace Accounts.Operation

/-- Gives the account behind claims a new secret. -/
def enableStep1 (claims : Claims) : Operation Otp.OtpSetup := do
  let u ← profile claims
  let setup ← otp (.generate u.publicId)
  users (.setOtpSecret u.id setup.secret)
  return setup

/-- Turns the second factor of the account behind claims on, and replies recovery codes. -/
def enableStep2 (count : Nat) (claims : Claims) (r : TwoFaCodeRequest) :
    Operation (List String) := do
  let u ← profile claims
  ensure r.faults.isEmpty .invalidOtpCode
  let secret ← orFail .twoFaNotInitiated u.otpSecret
  ensure (← otp (.validate secret r.code)) .invalidOtpCode
  let codes ← otp (.recoveryCodes count)
  ensure (← users (.enableOtp u.id secret codes)) .invalidOtpCode
  return codes

/-- Turns the second factor of the account behind claims off. -/
def disable (claims : Claims) : Operation Unit := do
  let u ← profile claims
  users (.disableOtp u.id)

end Accounts.Operation
