import Accounts.Database.Session
import Accounts.Outbox.Cycle
/-!
# The outbox in a database

Events are stored within the transaction of the change that they announce, all by
one statement.  A claim is a transaction that holds one row until it ends: marking
the envelope commits it, and letting go of the claim undoes it.  A claim that finds
nothing ends its transaction at once.

`relayReply` lets a relay work on a database.  An envelope that is gone when it is
to be marked is told to those who look on.
-/

namespace Accounts.Outbox.Stored

open Accounts.Database

/-- A failure of the database while something was done. -/
def during (what : String) (e : DatabaseError) : OutboxError := .other what [e]

/-- Stores events within the transaction, and says their numbers. -/
def insert (events : List NewEnvelope) : Session OutboxError (List Int) :=
  match events with
  | [] => pure []
  | _ => do
    let a ← Session.within (.insertEnvelopes events) .database
    Session.allRows (·.readFirst .integer) .database a

/-- Puts failed envelopes back that were stored at an instant or later. -/
def requeueSince (since : Instant) : Session OutboxError Nat := do
  let a ← Session.alone (.requeueSince since)
    (during "Failed to requeue failed envelopes since timestamp")
  return a.affected

/-- Puts failed envelopes back whose numbers lie in a range. -/
def requeueRange (least most : Int) : Session OutboxError Nat := do
  let a ← Session.alone (.requeueRange least most)
    (during "Failed to requeue failed envelopes by id range")
  return a.affected

/-- Deletes delivered envelopes that were last changed before an instant. -/
def purgeDone (cutoff : Instant) : Session OutboxError Nat := do
  let a ← Session.alone (.purgeDone cutoff) (during "Failed to purge delivered envelopes")
  return a.affected

/-- Where an envelope stands. -/
def statusOf (id : Int) : Session OutboxError (Option Status) := do
  let a ← Session.alone (.envelopeStatus id) .database
  Session.firstRow (·.readFirst .outboxStatus) .database a

/-- Reads the backlog. -/
def readBacklog (r : Row) : Except DatabaseError Backlog := do
  return ⟨← r.read "pending" .integer, ← r.read "age_seconds" .integer⟩

/-- The backlog. -/
def backlog : Session OutboxError Backlog := do
  let a ← Session.alone .backlog (during "Failed to compute pending stats")
  match ← Session.firstRow readBacklog .database a with
  | some b => return b
  | none => throw (during "Failed to compute pending stats" .rowNotFound)

/-- Claims the next envelope. -/
def claim : Session OutboxError (Option Envelope) := do
  Session.command .start .database
  Session.orGiveUp do
    let a ← Session.within .claimNext .database
    match ← Session.firstRow Row.envelope .database a with
    | some e => return some e
    | none =>
      Session.command .rollback .database
      return none

/-- Marks the claimed envelope, which ends the claim. -/
def mark (id : Int) (status : Status) : Session OutboxError Unit := do
  let a ← Session.within (.markEnvelope status id) .database
  if a.affected = 0 then throw (.envelopeNotFound id)
  Session.command .commit .database

/-- The envelope to be marked is gone. -/
def isGone : Except OutboxError Unit → Bool
  | .error (.envelopeNotFound _) => true
  | _ => false

/-- Replies to a relay that works on a database. -/
def relayReply {m : Type → Type} [Monad m] (sql : (c : SessionCall) → m c.Reply)
    (publish : Message → m (Except OutboxError Unit)) (count : Outcome → m Unit)
    (tell : Note → m Unit) : (c : RelayCall) → m c.Reply
  | .claim => Dialogue.run (I := sessionSurroundings) sql claim.run
  | .publish x => publish x
  | .mark id status => do
    let r ← Dialogue.run (I := sessionSurroundings) sql (mark id status).run
    if isGone r then tell (.vanished id)
    return r
  | .release _ => sql .abandon
  | .count outcome => count outcome
  | .note n => tell n

end Accounts.Outbox.Stored
