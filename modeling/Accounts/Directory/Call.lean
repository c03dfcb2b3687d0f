import Accounts.Account.Event
import Accounts.Account.Error
/-!
# What a directory of users is asked

A directory finds users and changes them, one request at a time.  A change that
comes with events stores them in the outbox as well, or does nothing at all.  A
change is made to the user that fits at that moment; where it may be that nobody
fits any more, the reply says whether somebody did.
-/

namespace Accounts

open Outbox (NewEnvelope)

/-- A request to a directory of users. -/
inductive DirectoryCall
  /-- The user with an address. -/
  | findByEmail (email : String)
  /-- The user with a public name. -/
  | findByPublicId (publicId : String)
  /-- The user who waits for an activation code. -/
  | findByActivationCode (code : String)
  /-- Add a user, unless the address is taken. -/
  | create (user : NewUser) (events : List NewEnvelope)
  /-- Activate the user who waits for a code, and drop the code. -/
  | activate (code : String) (now : Instant) (events : List NewEnvelope)
  /-- Give a user a reset code. -/
  | setResetCode (id : Int) (code : String) (now : Instant) (events : List NewEnvelope)
  /-- Give the user with a reset code a password, and drop the code. -/
  | resetPassword (code passwordHash : String) (now : Instant)
  /-- Give a user a password. -/
  | updatePassword (id : Int) (passwordHash : String) (now : Instant)
  /-- Give a user a secret for the second factor, which is not asked for by that. -/
  | setOtpSecret (id : Int) (secret : String)
  /-- Ask a user for the second factor from now on, if the secret is still the given one. -/
  | enableOtp (id : Int) (secret : String) (recoveryCodes : List String)
  /-- Never ask a user for the second factor, and drop what belongs to it. -/
  | disableOtp (id : Int)
  /-- Remove a recovery code of a user, if it is there. -/
  | consumeRecoveryCode (id : Int) (code : String)
deriving Repr

namespace DirectoryCall

/-- What a request that succeeds replies. -/
def Result : DirectoryCall → Type
  | findByEmail _ | findByPublicId _ | findByActivationCode _ => Option User
  | create _ _ => User
  | activate _ _ _ | resetPassword _ _ _ | enableOtp _ _ _ | consumeRecoveryCode _ _ => Bool
  | setResetCode _ _ _ _ | updatePassword _ _ _ | setOtpSecret _ _ | disableOtp _ => Unit

/-- The name of a request. -/
def name : DirectoryCall → String
  | findByEmail _ => "find_by_email"
  | findByPublicId _ => "find_by_public_id"
  | findByActivationCode _ => "find_by_activation_code"
  | create _ _ => "create"
  | activate _ _ _ => "activate"
  | setResetCode _ _ _ _ => "set_reset_code"
  | resetPassword _ _ _ => "reset_password"
  | updatePassword _ _ _ => "update_password"
  | setOtpSecret _ _ => "set_otp_secret"
  | enableOtp _ _ _ => "enable_otp"
  | disableOtp _ => "disable_otp"
  | consumeRecoveryCode _ _ => "consume_recovery_code"

end DirectoryCall

end Accounts
