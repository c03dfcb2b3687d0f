import Accounts.Proofs.Database.Transaction
/-!
# Sessions with a given database

A session whose questions are all replied to by one function is a computation that may fail,
and what is done one after another is computed one after another (`Session.answered_bind`).
A transaction whose commands succeed is its work.
-/

namespace Accounts.Database

/-- A reply for each question of a session. -/
abbrev Respondent := (q : SessionCall) → q.Reply

namespace Session

variable {α β δ ε : Type} {db : Respondent}

/-- The result of a session. -/
def answered (db : Respondent) (s : Session ε α) : Except ε α :=
  Id.run (Dialogue.run (I := sessionSurroundings) db s.run)

@[simp] theorem answered_pure (a : α) : (pure a : Session ε α).answered db = .ok a := rfl

theorem answered_andThen (s : Session ε α) (g : Except ε α → Session δ β) :
    (s.andThen g).answered db = (g (s.answered db)).answered db :=
  Dialogue.run_bind (m := Id) (I := sessionSurroundings) db s.run fun r => (g r).run

theorem answered_bind (s : Session ε α) (f : α → Session ε β) :
    (s >>= f).answered db = s.answered db >>= fun a => (f a).answered db := by
  rw [bind_eq_andThen, answered_andThen]
  cases s.answered db <;> rfl

/-- Something is done with a result that is known. -/
theorem answered_bind_ok {s : Session ε α} {a : α} (h : s.answered db = .ok a)
    (f : α → Session ε β) : (s >>= f).answered db = (f a).answered db := by
  rw [answered_bind, h]
  rfl

theorem answered_bind_error {s : Session ε α} {e : ε} (h : s.answered db = .error e)
    (f : α → Session ε β) : (s >>= f).answered db = .error e := by
  rw [answered_bind, h]
  rfl

theorem answered_discard (s : Session ε α) :
    (discard s).answered db = (s.answered db).map fun _ => () := by
  have hdiscard : discard s = s.andThen fun r => ExceptT.mk (.done (r.map fun _ => ())) := by
    refine congrArg (Dialogue.bind s.run) (funext fun r => ?_)
    cases r <;> rfl
  rw [hdiscard, answered_andThen]
  cases s.answered db <;> rfl

theorem answered_mapFailure (s : Session ε α) (f : ε → δ) :
    (s.mapFailure f).answered db = (s.answered db).mapError f := by
  rw [mapFailure_eq_andThen, answered_andThen]
  cases s.answered db <;> rfl

theorem answered_orGiveUp (s : Session ε α) : s.orGiveUp.answered db = s.answered db := by
  rw [orGiveUp_eq_andThen, answered_andThen]
  cases s.answered db <;> rfl

section Questions

variable {s : Statement} {c : Command} {a : Answer} {e : DatabaseError} {fail : DatabaseError → ε}

theorem answered_within_ok (h : db (.within s) = .ok a) : (within s fail).answered db = .ok a := by
  change Except.mapError fail (db (.within s)) = .ok a
  rw [h]
  rfl

theorem answered_within_error (h : db (.within s) = .error e) :
    (within s fail).answered db = .error (fail e) := by
  change Except.mapError fail (db (.within s)) = .error (fail e)
  rw [h]
  rfl

theorem answered_alone_ok (h : db (.alone s) = .ok a) : (alone s fail).answered db = .ok a := by
  change Except.mapError fail (db (.alone s)) = .ok a
  rw [h]
  rfl

theorem answered_command (h : db (.command c) = .ok ()) :
    (command c fail).answered db = .ok () := by
  change Except.mapError fail (db (.command c)) = .ok ()
  rw [h]
  rfl

end Questions

/-- A transaction whose commands succeed is its work. -/
theorem answered_transaction (h : ∀ c, db (.command c) = .ok ())
    (fail : Command → DatabaseError → ε) (work : Session ε (Ending × α)) :
    (transaction fail work).answered db = (work.answered db).map Prod.snd := by
  rw [transaction, answered_bind_ok (answered_command (h .start)), answered_orGiveUp, answered_bind]
  cases work.answered db with
  | error e => rfl
  | ok result =>
      change (command result.1.command _ >>= fun _ => pure result.2).answered db = _
      rw [answered_bind_ok (answered_command (h _))]
      rfl

end Session

end Accounts.Database
