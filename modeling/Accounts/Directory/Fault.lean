import Accounts.Directory.Memory
/-!
# A directory that goes wrong

A fault is armed for one kind of request and spoils the next request of that kind:
it fails, it finds nobody, or somebody else is faster.
-/

namespace Accounts

/-- What goes wrong with a request. -/
inductive DirectoryFault
  /-- The database fails. -/
  | broken
  /-- Nobody fits. -/
  | missing
  /-- Another request of the same content comes first. -/
  | overtaken
  /-- The secret of the user is replaced before. -/
  | secretReplaced (secret : String)
deriving DecidableEq, Repr

namespace DirectoryCall

/-- The reply when nobody fits, for requests that need somebody and say so. -/
def missed? : (c : DirectoryCall) → Option c.Result
  | findByEmail _ | findByPublicId _ | findByActivationCode _ => some none
  | activate _ _ _ | resetPassword _ _ _ | enableOtp _ _ _ | consumeRecoveryCode _ _ => some false
  | create _ _ | setResetCode _ _ _ _ | updatePassword _ _ _ | setOtpSecret _ _
  | disableOtp _ => none

end DirectoryCall

namespace Directory

/-- The reply to a request that is aimed at nobody. -/
def replyAimless (d : Directory) (clock : Instant) :
    (c : DirectoryCall) → Except AccountError c.Result × Directory
  | .setResetCode _ code now events => d.reply clock (.setResetCode (-1) code now events)
  | .updatePassword _ hash now => d.reply clock (.updatePassword (-1) hash now)
  | .setOtpSecret _ secret => d.reply clock (.setOtpSecret (-1) secret)
  | .disableOtp _ => d.reply clock (.disableOtp (-1))
  | c =>
    match c.missed? with
    | some r => (.ok r, d)
    | none => d.reply clock c

/-- The reply to a request with which something goes wrong. -/
def replyFaulty (d : Directory) (clock : Instant) (f : DirectoryFault) (c : DirectoryCall) :
    Except AccountError c.Result × Directory :=
  match f with
  | .broken => (.error (.database "injected"), d)
  | .missing => d.replyAimless clock c
  | .overtaken => (d.reply clock c).2.reply clock c
  | .secretReplaced secret =>
    match c with
    | .enableOtp id old codes =>
      (d.reply clock (.setOtpSecret id secret)).2.reply clock (.enableOtp id old codes)
    | c => d.reply clock c

end Directory

end Accounts
