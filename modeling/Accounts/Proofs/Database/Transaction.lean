import Accounts.Directory.Stored
import Accounts.Proofs.Database.Commit
import Mathlib.Data.List.Forall2
/-!
# The transactions of the server

Three changes of users come with events, and each is one transaction.  A claim of the outbox
is another one, which stays open while a message is handed to the bus; it ends when the
envelope is marked or when the claim is let go.  All of them are disciplined, whatever the
database replies and whatever the bus says.
-/

namespace Accounts

variable {α β ε : Type}

namespace Dialogue

variable {I : Interface}

theorem run_query (p : Dialogue I α) : p.run Dialogue.query = p := by
  induction p with
  | done a => rfl
  | ask q next ih => exact congrArg (Dialogue.ask q) (funext ih)

theorem run_bind {m : Type → Type} [Monad m] [LawfulMonad m]
    (reply : (q : I.Query) → m (I.Reply q)) (p : Dialogue I α) (f : α → Dialogue I β) :
    (p.bind f).run reply = p.run reply >>= fun a => (f a).run reply := by
  induction p with
  | done a => simp only [Dialogue.bind, Dialogue.run, pure_bind]
  | ask q next ih => simp only [Dialogue.bind, Dialogue.run, ih, LawfulMonad.bind_assoc]

end Dialogue

namespace Database

open Outbox (NewEnvelope Envelope Status Message Outcome OutboxError)
open Session (Trace)

/-! ## What has to come before a commit -/

/-- The first row of an answer reads as a value. -/
def Answer.Shows (read : Row → Except DatabaseError α) (x : α) (a : Answer) : Prop :=
  ∃ r rest, a.rows = r :: rest ∧ read r = .ok x

/-- All rows of an answer can be read. -/
def Answer.Readable (read : Row → Except DatabaseError α) (a : Answer) : Prop :=
  ∃ l, a.rows.mapM read = .ok l

def Answer.Changes (a : Answer) : Prop := a.affected ≠ 0

/-- A statement of a transaction, with what has to be true of its answer. -/
structure Step where
  statement : Statement
  /-- The answers that let the transaction go on. -/
  Accepts : Answer → Prop

/-- The statement ran and was answered as it has to be. -/
def Step.Done (step : Step) (x : Exchange sessionSurroundings) : Prop :=
  ∃ a, step.Accepts a ∧ x = ⟨.within step.statement, .ok a⟩

/-- The steps were done, each once and in order, and nothing else. -/
abbrev Ran (steps : List Step) (t : Trace) : Prop := List.Forall₂ Step.Done steps t

/-- A transaction was started, and then its steps were done. -/
def Ready (steps : List Step) (t : Trace) : Prop :=
  ∃ ran, t = ⟨.command .start, .ok ()⟩ :: ran ∧ Ran steps ran

/-- The step that stores events, if there are any. -/
def storing : List NewEnvelope → List Step
  | [] => []
  | events => [⟨.insertEnvelopes events, Answer.Readable (·.readFirst .integer)⟩]

theorem ran_single (step : Step) {a : Answer} (h : step.Accepts a) :
    Ran [step] [⟨.within step.statement, .ok a⟩] := .cons ⟨a, h, rfl⟩ .nil

theorem Ready.append {steps steps' : List Step} {t t' : Trace} (h : Ready steps t)
    (h' : Ran steps' t') : Ready (steps ++ steps') (t ++ t') := by
  obtain ⟨ran, rfl, hran⟩ := h
  exact ⟨ran ++ t', rfl, List.rel_append hran h'⟩

namespace Session.Prepares

theorem firstRow {read : Row → Except DatabaseError α} {fail : DatabaseError → ε} {a : Answer} :
    (Session.firstRow read fail a).Prepares fun o t =>
      t = [] ∧ ∀ x, o = some x → a.Shows read x := by
  unfold Session.firstRow
  split
  · refine .pure ⟨rfl, fun x hx => ?_⟩
    cases hx
  · next r rest hrows =>
      refine .done fun o ho => ⟨rfl, ?_⟩
      rintro x rfl
      cases hr : read r with
      | ok y =>
          rw [hr] at ho
          cases ho
          exact ⟨r, rest, hrows, hr⟩
      | error e =>
          rw [hr] at ho
          cases ho

theorem allRows {read : Row → Except DatabaseError α} {fail : DatabaseError → ε} {a : Answer} :
    (Session.allRows read fail a).Prepares fun _ t => t = [] ∧ a.Readable read := by
  refine .done fun l hl => ⟨rfl, ?_⟩
  cases hrows : a.rows.mapM read with
  | ok l => exact ⟨l, hrows⟩
  | error e =>
      rw [hrows] at hl
      cases hl

end Session.Prepares

/-! ## Changes of users -/

theorem prepares_insert (events : List NewEnvelope) :
    (Outbox.Stored.insert events).Prepares fun _ => Ran (storing events) := by
  cases events with
  | nil => exact .pure .nil
  | cons e events =>
      refine Session.Prepares.within.bind fun a t ht => ?_
      subst ht
      refine Session.Prepares.allRows.mono ?_
      rintro l t ⟨rfl, hread⟩
      exact ran_single _ hread

theorem prepares_announce (events : List NewEnvelope) :
    (DirectoryCall.announce events).Prepares fun _ => Ran (storing events) := by
  refine (prepares_insert events).mapFailure.bind fun ids t ht => .pure ?_
  rwa [List.append_nil]

/-- The end of a change that is to be kept. -/
theorem prepares_keeping (events : List NewEnvelope) (a : α) :
    (do DirectoryCall.announce events; return (Ending.commit, a)).Prepares
      fun x t => x = (Ending.commit, a) ∧ Ran (storing events) t := by
  refine (prepares_announce events).bind fun _ t ht => .pure ⟨rfl, ?_⟩
  rwa [List.append_nil]

theorem disciplined_insertUser (n : NewUser) (events : List NewEnvelope) :
    (DirectoryCall.insertUser n events).Disciplined
      (fun t => ∃ u, Ready (⟨.insertUser n, Answer.Shows Row.user u⟩ :: storing events) t)
      (fun _ => True) .ofDatabase := by
  refine .transaction (fun x t => x.1 = .commit ∧
    Ran (⟨.insertUser n, Answer.Shows Row.user x.2⟩ :: storing events) t) ?_ ?_ ?_
  · refine Session.Prepares.within.bind fun a t ht => ?_
    subst ht
    refine Session.Prepares.firstRow.bind ?_
    rintro o t ⟨rfl, hshows⟩
    cases o with
    | none => exact .throw
    | some u =>
        refine (prepares_keeping events u).mono ?_
        rintro x t ⟨rfl, ht⟩
        exact ⟨rfl, .cons ⟨a, hshows u rfl, rfl⟩ ht⟩
  · rintro u t ⟨-, hran⟩
    exact ⟨trivial, u, t, rfl, hran⟩
  · rintro u t ⟨h, -⟩
    cases h

theorem disciplined_activateUser (code : String) (now : Instant) (events : List NewEnvelope) :
    (DirectoryCall.activateUser code now events).Disciplined
      (Ready (⟨.activateUser code now, Answer.Changes⟩ :: storing events))
      (fun found => found = true) .ofDatabase := by
  refine .transaction (fun x t => (x.2 = true ↔ x.1 = .commit) ∧ (x.1 = .commit →
    Ran (⟨.activateUser code now, Answer.Changes⟩ :: storing events) t)) ?_ ?_ ?_
  · refine Session.Prepares.within.bind fun a t ht => ?_
    subst ht
    split
    · exact .pure (by simp)
    · next hchanged =>
        refine (prepares_keeping events true).mono ?_
        rintro x t ⟨rfl, ht⟩
        exact ⟨iff_of_true rfl rfl, fun _ => .cons ⟨a, hchanged, rfl⟩ ht⟩
  · rintro found t ⟨hfound, hran⟩
    exact ⟨hfound.2 rfl, t, rfl, hran rfl⟩
  · rintro found t ⟨hfound, -⟩ h
    cases hfound.1 h

theorem disciplined_giveResetCode (id : Int) (code : String) (now : Instant)
    (events : List NewEnvelope) : (DirectoryCall.giveResetCode id code now events).Disciplined
      (Ready (⟨.setResetCode id code now, Answer.Changes⟩ :: storing events))
      (fun _ => True) .ofDatabase := by
  refine .transaction (fun x t => x.1 = .commit ∧
    Ran (⟨.setResetCode id code now, Answer.Changes⟩ :: storing events) t) ?_ ?_ ?_
  · refine Session.Prepares.within.bind fun a t ht => ?_
    subst ht
    split
    · exact .throw
    · next hchanged =>
        refine (prepares_keeping events ()).mono ?_
        rintro x t ⟨rfl, ht⟩
        exact ⟨rfl, .cons ⟨a, hchanged, rfl⟩ ht⟩
  · rintro u t ⟨-, hran⟩
    exact ⟨trivial, t, rfl, hran⟩
  · rintro u t ⟨h, -⟩
    cases h

/-! ## Claims -/

open Outbox.Stored (claim mark relayReply)

def claiming (e : Envelope) : Step := ⟨.claimNext, Answer.Shows Row.envelope e⟩

def marking (e : Envelope) (status : Status) : Step := ⟨.markEnvelope status e.id, Answer.Changes⟩

/-- What a claimed envelope waits for is done, and then the claim is let go. -/
def finish (work : Session ε α) : Session ε α :=
  work.andThen fun r => ExceptT.mk (.ask (I := sessionSurroundings) .abandon fun _ => .done r)

/-- What becomes of a claim: the envelope is marked as is decided, or it is only let go. -/
def settleClaim (decide : Envelope → Option Status) :
    Option Envelope → Session OutboxError (Option (Envelope × Option Status))
  | none => pure none
  | some e => (fun _ => some (e, decide e)) <$> finish
      (match decide e with
      | some status => mark e.id status
      | none => pure ())

/-- A claim, and what becomes of it. -/
def claimThen (decide : Envelope → Option Status) :
    Session OutboxError (Option (Envelope × Option Status)) := claim >>= settleClaim decide

theorem prepares_claim : claim.Prepares fun o t => ∀ e, o = some e → Ready [claiming e] t := by
  refine Session.Prepares.bind (.command (by decide)) fun _ t₀ ht₀ => ?_
  subst ht₀
  refine Session.Prepares.orGiveUp (.bind .within fun a t ht => ?_)
  subst ht
  refine Session.Prepares.firstRow.bind ?_
  rintro o t ⟨rfl, hshows⟩
  cases o with
  | none =>
      refine Session.Prepares.bind (.command (by decide)) fun _ _ _ => .pure fun e he => ?_
      cases he
  | some e =>
      refine .pure fun e' he => ?_
      cases he
      exact ⟨_, rfl, ran_single (claiming e) (hshows e rfl)⟩

theorem disciplined_mark (e : Envelope) (status : Status) :
    (mark e.id status).Disciplined (Ran [marking e status]) (fun _ => True) .database := by
  refine Session.Disciplined.after .within fun a t ht => ?_
  subst ht
  split
  · exact .throw
  · next hchanged => exact .commit (ran_single (marking e status) hchanged)

theorem disciplined_finish {work : Session ε α} {ready : Trace → Prop} {keeps : α → Prop}
    {fail : DatabaseError → ε} (h : work.Disciplined ready keeps fail) :
    (finish work).Disciplined ready keeps fail := by
  refine h.andThen (fun r => .lettingGo fun _ _ => trivial) fun r t r' hp => ?_
  obtain ⟨_, -, rfl⟩ := Dialogue.ends_ask_done hp
  cases r' with
  | ok a => exact Iff.rfl
  | error e => rfl

/-- Claims that are marked commit, and no others. -/
theorem disciplined_claimThen (decide : Envelope → Option Status) :
    (claimThen decide).Disciplined
      (fun t => ∃ e status, decide e = some status ∧ Ready [claiming e, marking e status] t)
      (fun o => ∃ e status, o = some (e, some status)) .database := by
  refine .after prepares_claim fun o t ht => ?_
  cases o with
  | none =>
      refine .of_prepares (fun o _ => o = none) (.pure rfl) ?_
      rintro o - rfl ⟨e, status, h⟩
      cases h
  | some e =>
      have hclaimed := ht e rfl
      rw [settleClaim]
      cases hdecide : decide e with
      | none =>
          have hnothing : (pure () : Session OutboxError Unit).Disciplined
              (fun _ => False) (fun _ => False) .database :=
            .of_prepares (fun _ _ => True) (.pure trivial) fun _ _ _ => id
          refine ((disciplined_finish hnothing).mono fun _ => False.elim).map fun _ => ?_
          simp
      | some status =>
          have hmark := (disciplined_finish (disciplined_mark e status)).mono fun t' ht' =>
            (⟨e, status, hdecide, hclaimed.append ht'⟩ : ∃ e status, decide e = some status ∧
              Ready [claiming e, marking e status] (t ++ t'))
          exact hmark.map fun _ => iff_of_true ⟨e, status, rfl⟩ trivial

/-! ## The relay -/

/-- Replies to a relay on a database with a bus that gives these replies. -/
def replyWith (bus : Message → Except OutboxError Unit) :
    (c : Outbox.RelayCall) → Dialogue sessionSurroundings c.Reply :=
  relayReply (Dialogue.query (I := sessionSurroundings)) (fun m => pure (bus m))
    (fun _ => pure ()) (fun _ => pure ())

/-- One cycle of a relay, as a session. -/
def processOne (bus : Message → Except OutboxError Unit) : Session OutboxError Outcome :=
  ExceptT.mk (Dialogue.run (I := Outbox.relaySurroundings) (replyWith bus) Outbox.cycle)

/-- The mark that an envelope gets from the reply of the bus. -/
def verdict (bus : Message → Except OutboxError Unit) (e : Envelope) : Status :=
  match bus e.message with
  | .ok () => .done
  | .error _ => .error

/-- The end of a cycle that made so much of its claim. -/
def outcomeOf : Option (Envelope × Option Status) → Outcome
  | some (e, some .done) => .delivered e.id
  | some (e, some _) => .failed e.id
  | some (_, none) | none => .idle

variable (bus : Message → Except OutboxError Unit)

theorem replyWith_mark (id : Int) (status : Status) :
    replyWith bus (.mark id status) = (mark id status).run := by
  refine Eq.trans ?_ (Dialogue.bind_done (mark id status).run)
  refine congrArg₂ Dialogue.bind (Dialogue.run_query _) (funext fun r => ?_)
  cases Outbox.Stored.isGone r <;> rfl

theorem run_settle (e : Envelope) (status : Status) :
    (Outbox.settle e status).run (replyWith bus) = (finish (mark e.id status)).run :=
  congrArg (Dialogue.bind · fun r =>
    .ask (I := sessionSurroundings) .abandon fun _ => .done r) (replyWith_mark bus e.id status)

theorem run_finishDelivered (e : Envelope) :
    (Outbox.finishDelivered e).run (replyWith bus) =
      ((fun _ => Outcome.delivered e.id) <$> finish (mark e.id .done)).run := by
  refine (Dialogue.run_bind (replyWith bus) (Outbox.settle e .done) _).trans ?_
  rw [run_settle, ExceptT.run_map]
  refine congrArg (Dialogue.bind _) (funext fun r => ?_)
  cases r <;> rfl

theorem run_finishRefused (e : Envelope) (reason : OutboxError) :
    (Outbox.finishRefused e reason).run (replyWith bus) =
      ((fun _ => Outcome.failed e.id) <$> finish (mark e.id .error)).run := by
  refine (Dialogue.run_bind (replyWith bus) (Outbox.settle e .error) _).trans ?_
  rw [run_settle, ExceptT.run_map]
  refine congrArg (Dialogue.bind _) (funext fun r => ?_)
  cases r <;> rfl

theorem run_publish (x : Message)
    (next : Except OutboxError Unit → Outbox.Relaying (Except OutboxError Outcome)) :
    Dialogue.run (I := Outbox.relaySurroundings) (replyWith bus) (.ask (.publish x) next) =
      (next (bus x)).run (replyWith bus) := rfl

theorem run_afterClaim (e : Envelope) :
    (Outbox.afterClaim (.ok (some e))).run (replyWith bus) =
      ((fun _ => outcomeOf (some (e, some (verdict bus e)))) <$>
        finish (mark e.id (verdict bus e))).run := by
  refine (run_publish bus e.message _).trans ?_
  unfold verdict
  cases bus e.message with
  | ok u => exact run_finishDelivered bus e
  | error f => exact run_finishRefused bus e f

theorem run_cycle : Dialogue.run (I := Outbox.relaySurroundings) (replyWith bus) Outbox.cycle =
    claim.run.bind fun r =>
      Dialogue.run (I := Outbox.relaySurroundings) (replyWith bus) (Outbox.afterClaim r) := by
  change Dialogue.bind (Dialogue.run Dialogue.query claim.run) _ = _
  rw [Dialogue.run_query]
  rfl

theorem processOne_eq :
    processOne bus = outcomeOf <$> claimThen fun e => some (verdict bus e) := by
  rw [processOne, run_cycle, claimThen, map_bind]
  refine congrArg (Dialogue.bind claim.run) (funext fun r => ?_)
  cases r with
  | error f => rfl
  | ok o =>
      cases o with
      | none => rfl
      | some e =>
          refine (run_afterClaim bus e).trans ?_
          rw [← Functor.map_map]
          rfl

theorem outcomeOf_ne_idle {o : Option (Envelope × Option Status)} :
    outcomeOf o ≠ .idle ↔ ∃ e status, o = some (e, some status) := by
  rcases o with _ | ⟨e, _ | status⟩
  · simp [outcomeOf]
  · simp [outcomeOf]
  · cases status <;> simp [outcomeOf]

theorem disciplined_processOne : (processOne bus).Disciplined
    (fun t => ∃ e, Ready [claiming e, marking e (verdict bus e)] t) (· ≠ .idle) .database := by
  rw [processOne_eq]
  refine ((disciplined_claimThen _).mono ?_).map fun o => outcomeOf_ne_idle
  rintro t ⟨e, status, hstatus, hready⟩
  cases hstatus
  exact ⟨e, hready⟩

/-- Every transaction of the server commits at most once, and only after each of its statements
succeeded: the change found its row or showed it, and the events were stored if there are any.
What is said to be done was committed, the commit was acknowledged, and any other end comes
without a commit, but for the failure of the commit itself.  The database may reply anything and
fail at any point, and so may the bus. -/
theorem transactions_disciplined :
    (∀ n events, (DirectoryCall.session (.create n events)).Disciplined
      (fun t => ∃ u, Ready (⟨.insertUser n, Answer.Shows Row.user u⟩ :: storing events) t)
      (fun _ => True) .ofDatabase) ∧
    (∀ code now events, (DirectoryCall.session (.activate code now events)).Disciplined
      (Ready (⟨.activateUser code now, Answer.Changes⟩ :: storing events))
      (fun found => found = true) .ofDatabase) ∧
    (∀ id code now events, (DirectoryCall.session (.setResetCode id code now events)).Disciplined
      (Ready (⟨.setResetCode id code now, Answer.Changes⟩ :: storing events))
      (fun _ => True) .ofDatabase) ∧
    (∀ decide, (claimThen decide).Disciplined
      (fun t => ∃ e status, decide e = some status ∧ Ready [claiming e, marking e status] t)
      (fun o => ∃ e status, o = some (e, some status)) .database) ∧
    ∀ bus, (processOne bus).Disciplined
      (fun t => ∃ e, Ready [claiming e, marking e (verdict bus e)] t) (· ≠ .idle) .database :=
  ⟨disciplined_insertUser, disciplined_activateUser, disciplined_giveResetCode,
    disciplined_claimThen, disciplined_processOne⟩

end Database

end Accounts
