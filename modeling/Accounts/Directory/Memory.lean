import Accounts.Directory.Call
import Accounts.Outbox.Store
/-!
# A directory in memory

The users are kept in the order in which they were added; the number of a user is
its place.  Every change goes to the first user that fits and stores its events in
the outbox; when the outbox refuses them, the users stay as they are.
-/

namespace Accounts

open Outbox (NewEnvelope Store)

/-- Users and their outbox. -/
structure Directory where
  /-- The users, in the order in which they were added. -/
  users : List User
  /-- Where the events go. -/
  outbox : Store
deriving Inhabited

namespace Directory

/-- The directory without users. -/
def empty : Directory := ⟨[], .empty⟩

/-- Changes the first item that fits. -/
def changeFirst {α : Type} (fits : α → Bool) (change : α → α) : List α → List α
  | [] => []
  | a :: as => if fits a then change a :: as else a :: changeFirst fits change as

/-- Changes the first user that fits and stores events, and says whether one fits. -/
def mutate (d : Directory) (clock : Instant) (fits : User → Bool) (events : List NewEnvelope)
    (change : User → User) : Except AccountError Bool × Directory :=
  if d.users.any fits then
    match d.outbox.append clock events with
    | .error e => (.error (.ofOutbox e), d)
    | .ok (_, outbox) => (.ok true, ⟨changeFirst fits change d.users, outbox⟩)
  else (.ok false, d)

/-- The user holds a recovery code. -/
def holdsCode (code : String) (u : User) : Bool := u.otpRecoveryCodes.contains code

/-- Replies to a request. -/
def reply (d : Directory) (clock : Instant) :
    (c : DirectoryCall) → Except AccountError c.Result × Directory
  | .findByEmail email => (.ok (d.users.find? (·.email == email)), d)
  | .findByPublicId publicId => (.ok (d.users.find? (·.publicId == publicId)), d)
  | .findByActivationCode code => (.ok (d.users.find? (·.activationCode == some code)), d)
  | .create n events =>
    if d.users.any (·.email == n.email) then (.error .emailAlreadyExists, d)
    else
      let u := User.ofNew (d.users.length + 1) n
      match d.outbox.append clock events with
      | .error e => (.error (.ofOutbox e), d)
      | .ok (_, outbox) => (.ok u, ⟨d.users ++ [u], outbox⟩)
  | .activate code now events =>
    d.mutate clock (·.activationCode == some code) events fun u =>
      { u with status := .activated, activationCode := none, updatedAt := now }
  | .setResetCode id code now events =>
    match d.mutate clock (·.id == id) events fun u =>
      { u with resetPasswordCode := some code, updatedAt := now } with
    | (.ok true, d) => (.ok (), d)
    | (.ok false, d) => (.error .userNotFound, d)
    | (.error e, d) => (.error e, d)
  | .resetPassword code passwordHash now =>
    d.mutate clock (·.resetPasswordCode == some code) [] fun u =>
      { u with passwordHash, resetPasswordCode := none, updatedAt := now }
  | .updatePassword id passwordHash now =>
    silent <| d.mutate clock (·.id == id) [] fun u => { u with passwordHash, updatedAt := now }
  | .setOtpSecret id secret =>
    silent <| d.mutate clock (·.id == id) [] fun u => { u with otpSecret := some secret }
  | .enableOtp id secret recoveryCodes =>
    d.mutate clock (fun u => u.id == id && u.otpSecret == some secret) [] fun u =>
      { u with otpRecoveryCodes := recoveryCodes, otpEnabled := true }
  | .disableOtp id =>
    silent <| d.mutate clock (·.id == id) [] fun u =>
      { u with otpEnabled := false, otpSecret := none, otpRecoveryCodes := [] }
  | .consumeRecoveryCode id code =>
    d.mutate clock (fun u => u.id == id && holdsCode code u) [] fun u =>
      { u with otpRecoveryCodes := u.otpRecoveryCodes.filter (· != code) }
where
  /-- A reply that does not say whether somebody fits. -/
  silent (r : Except AccountError Bool × Directory) : Except AccountError Unit × Directory :=
    (r.1.map fun _ => (), r.2)

end Directory

end Accounts
