import Accounts.Directory.Call
import Accounts.Outbox.Stored
/-!
# A directory in a database

Each request to the directory is a session.  A change that comes with events is one
transaction, which is committed only after the change found its user and the events
are stored.  Any other request is one statement.
-/

namespace Accounts

open Database
open Outbox (NewEnvelope)

namespace DirectoryCall

/-- A user cannot be added. -/
def ofInsertion (e : DatabaseError) : AccountError :=
  if e.isUniqueViolation "users_email_key" then .emailAlreadyExists else .ofDatabase e

/-- Stores the events of a change. -/
def announce (events : List NewEnvelope) : Session AccountError Unit := do
  discard <| Session.mapFailure .ofOutbox (Outbox.Stored.insert events)

/-- The user whom a statement finds. -/
def find (s : Statement) : Session AccountError (Option User) := do
  Session.firstRow Row.user .ofDatabase (← Session.alone s .ofDatabase)

/-- Changes a user, and says whether one fits. -/
def change (s : Statement) : Session AccountError Bool := do
  let a ← Session.alone s .ofDatabase
  return a.affected != 0

/-- Changes a user who has to be there. -/
def changeKnown (s : Statement) : Session AccountError Unit := do
  if !(← change s) then throw .userNotFound

/-- Adds a user. -/
def insertUser (n : NewUser) (events : List NewEnvelope) : Session AccountError User :=
  Session.transaction (fun _ => .ofDatabase) do
    let a ← Session.within (.insertUser n) ofInsertion
    match ← Session.firstRow Row.user .ofDatabase a with
    | none => throw (.ofDatabase .rowNotFound)
    | some u =>
      announce events
      return (.commit, u)

/-- Activates the user who waits for a code. -/
def activateUser (code : String) (now : Instant) (events : List NewEnvelope) :
    Session AccountError Bool :=
  Session.transaction (fun _ => .ofDatabase) do
    let a ← Session.within (.activateUser code now) .ofDatabase
    if a.affected = 0 then return (.rollback, false)
    announce events
    return (.commit, true)

/-- Gives a user a reset code. -/
def giveResetCode (id : Int) (code : String) (now : Instant) (events : List NewEnvelope) :
    Session AccountError Unit :=
  Session.transaction (fun _ => .ofDatabase) do
    let a ← Session.within (.setResetCode id code now) .ofDatabase
    if a.affected = 0 then throw .userNotFound
    announce events
    return (.commit, ())

/-- The session of a request. -/
def session : (c : DirectoryCall) → Session AccountError c.Result
  | findByEmail email => find (.userByEmail email)
  | findByPublicId publicId => find (.userByPublicId publicId)
  | findByActivationCode code => find (.userByActivationCode code)
  | create n events => insertUser n events
  | activate code now events => activateUser code now events
  | setResetCode id code now events => giveResetCode id code now events
  | resetPassword code hash now => change (.resetPassword code hash now)
  | updatePassword id hash now => changeKnown (.updatePassword id hash now)
  | setOtpSecret id secret => changeKnown (.setOtpSecret id secret)
  | enableOtp id secret codes => change (.enableOtp id secret codes)
  | disableOtp id => discard <| change (.disableOtp id)
  | consumeRecoveryCode id code => change (.consumeRecoveryCode id code)

end DirectoryCall

end Accounts
