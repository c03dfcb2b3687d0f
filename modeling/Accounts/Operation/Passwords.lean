import Accounts.Operation.Basic
import Accounts.Password.Hash
import Accounts.Text.Blank
/-!
# Setting passwords

A reset code is announced together with storing it, and it is good for one new
password.  Asking for a code for an unknown address looks like success.
-/

namespace Accounts.Operation

/-- Gives the account with an address a reset code. -/
def requestPasswordReset (r : PasswordResetRequest) (code : String) (now : Instant) :
    Operation Unit := do
  validate r.faults
  match ← users (.findByEmail (Text.trim r.email)) with
  | none => pure ()
  | some u =>
    let event := AccountEvent.resetPassword
      { publicId := u.publicId, email := u.email, resetPasswordCode := code }
    users (.setResetCode u.id code now [event.envelope])

/-- Sets a password with a reset code. -/
def resetPassword (r : ResetPasswordRequest) (salt : List UInt8) (now : Instant) :
    Operation Unit := do
  validate r.faults
  ensure (← users (.resetPassword r.resetCode (Password.hash r.password salt) now))
    .invalidResetCode

/-- Sets the password of the account behind claims. -/
def changePassword (claims : Claims) (r : ChangePasswordRequest) (salt : List UInt8)
    (now : Instant) : Operation Unit := do
  let u ← profile claims
  validate r.faults
  users (.updatePassword u.id (Password.hash r.password salt) now)

end Accounts.Operation
