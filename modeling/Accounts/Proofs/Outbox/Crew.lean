import Accounts.Outbox.Timeline
/-!
# Relays at work on one outbox

Any number of relays share an outbox and a bus, and each does one cycle after
another.  What matters of a relay is the cycle that it is in, so a crew is a list of
cycles, each of which may have been started at any time.  A cycle asks one question
in a move, and between two of its questions the others move: other cycles, those
who store events, and operators.

A *stage* says what a cycle did with its claim.  It follows from the questions that
the cycle asked and from the replies alone, and it does not look at the code that
the cycle still has to run.  `Stage.Follows` says that this code keeps to the order
of the stages, and `Stage.follows_cycle` that a cycle does so from its start.

A cycle may be abandoned while it waits for the bus, before the bus took its message.
Then the claim is let go, as it is when a claim goes out of use.
-/

namespace Accounts.Outbox

/-! ## Stages -/

/-- What a cycle did with its claim. -/
inductive Stage
  /-- It holds no claim. -/
  | free
  /-- It holds a claim, and the bus did not reply yet. -/
  | claimed (e : Envelope)
  /-- The bus took the message, and the envelope is not marked yet. -/
  | sent (e : Envelope)
  /-- The bus did not take the message, and the envelope is not marked yet. -/
  | refused (e : Envelope)
  /-- The envelope is marked, and the claim is still held. -/
  | settled (e : Envelope)

namespace Stage

/-- The envelope that is claimed. -/
def held? : Stage → Option Envelope
  | free => none
  | claimed e | sent e | refused e | settled e => some e

/-- The envelope that the bus took and that is not marked yet. -/
def sent? : Stage → Option Envelope
  | sent e => some e
  | _ => none

/-- The stage after a question and its reply. -/
def after : Stage → (q : RelayCall) → q.Reply → Stage
  | free, .claim, .ok (some e) => claimed e
  | claimed e, .publish _, .ok () => sent e
  | claimed e, .publish _, .error _ => refused e
  | sent e, .mark _ _, .ok () => settled e
  | refused e, .mark _ _, .ok () => settled e
  | _, .release _, () => free
  | s, _, _ => s

/-- The questions that may be asked at a stage. -/
def Allows : Stage → RelayCall → Prop
  | free, .claim => True
  | claimed e, .publish m => m = e.message
  | sent e, .mark id status => id = e.id ∧ status = .done
  | refused e, .mark id status => id = e.id ∧ status = .error
  | settled e, .release id => id = e.id
  | _, .count _ | _, .note _ => True
  | _, _ => False

end Stage

/-- A reply that is given while the envelope of a claim is there. -/
def RelayCall.Expected : (q : RelayCall) → q.Reply → Prop
  | .mark _ _, r => r = .ok ()
  | _, _ => True

/-- The rest of a cycle keeps to the order of the stages and ends without a claim. -/
def Stage.Follows {α : Type} : Stage → Relaying α → Prop
  | s, .done _ => s = .free
  | s, .ask q next => s.Allows q ∧ ∀ r, q.Expected r → (s.after q r).Follows (next r)

namespace Stage

theorem follows_finishDelivered (e : Envelope) : (sent e).Follows (finishDelivered e) := by
  refine ⟨⟨rfl, rfl⟩, ?_⟩
  rintro r rfl
  refine ⟨rfl, fun _ _ => ?_⟩
  exact ⟨trivial, fun _ _ => ⟨trivial, fun _ _ => rfl⟩⟩

theorem follows_finishRefused (e : Envelope) (reason : OutboxError) :
    (refused e).Follows (finishRefused e reason) := by
  refine ⟨trivial, fun _ _ => ⟨⟨rfl, rfl⟩, ?_⟩⟩
  rintro r rfl
  refine ⟨rfl, fun _ _ => ?_⟩
  exact ⟨trivial, fun _ _ => rfl⟩

/-- A cycle keeps to the order of the stages. -/
theorem follows_cycle : free.Follows cycle := by
  refine ⟨trivial, ?_⟩
  intro claim _
  match claim with
  | .error _ => rfl
  | .ok none => rfl
  | .ok (some e) =>
      refine ⟨rfl, ?_⟩
      intro taken _
      match taken with
      | .ok () => exact follows_finishDelivered e
      | .error reason => exact follows_finishRefused e reason

end Stage

/-! ## Moves -/

/-- A cycle that was started. -/
structure Worker where
  /-- It counts what it does. -/
  metered : Bool
  /-- What it did with its claim. -/
  stage : Stage
  /-- What it still has to do. -/
  rest : Relaying (Except OutboxError Outcome)

/-- Cycles with their outbox and their bus. -/
structure Crew where
  /-- The outbox, the bus, the figures and the clock. -/
  site : Timeline
  /-- The cycles that were started. -/
  workers : List Worker

/-- What happens next. -/
inductive Move
  /-- A cycle is started. -/
  | start (metered : Bool)
  /-- The cycle at a place asks its next question. -/
  | turn (place : Nat)
  /-- The cycle at a place is abandoned while it waits for the bus. -/
  | abandon (place : Nat)
  /-- Events are stored. -/
  | append (events : List NewEnvelope)
  /-- An operator puts back all envelopes whose delivery failed. -/
  | requeue
  /-- The clock is set. -/
  | clock (now : Instant)
  /-- From now on nothing can be stored, or things can be stored again. -/
  | refuse (refusing : Bool)
  /-- The next few claims fail. -/
  | failClaims (count : Nat)
  /-- The next few messages are refused. -/
  | failNext (count : Nat)
  /-- A topic is refused from now on. -/
  | failTopic (topic : String)

namespace Crew

/-- Nothing is stored, sent or running. -/
def start (now : Instant) : Crew := ⟨.start now 0, []⟩

/-- The outbox. -/
def store (c : Crew) : Store := c.site.store

/-- The bus. -/
def bus (c : Crew) : Recorder := c.site.recorder

/-- The crew with another outbox. -/
def withStore (c : Crew) (s : Store) : Crew := { c with site := { c.site with store := s } }

/-- The crew with another bus. -/
def withBus (c : Crew) (b : Recorder) : Crew := { c with site := { c.site with recorder := b } }

/-- A cycle asks its next question. -/
def turn (c : Crew) (place : Nat) : Crew :=
  match c.workers[place]? with
  | some ⟨metered, s, .ask q next⟩ =>
    let (r, site) := c.site.reply metered q
    ⟨site, c.workers.set place ⟨metered, s.after q r, next r⟩⟩
  | _ => c

/-- A cycle is abandoned while it waits for the bus. -/
def abandon (c : Crew) (place : Nat) : Crew :=
  match c.workers[place]? with
  | some ⟨_, .claimed e, _⟩ =>
    { c.withStore (c.store.release e.id) with workers := c.workers.eraseIdx place }
  | _ => c

/-- What a move does. -/
def step (c : Crew) : Move → Crew
  | .start metered => { c with workers := c.workers ++ [⟨metered, .free, cycle⟩] }
  | .turn place => c.turn place
  | .abandon place => c.abandon place
  | .append events =>
    match c.store.append c.site.clock events with
    | .ok (_, s) => c.withStore s
    | .error _ => c
  | .requeue => c.withStore (c.store.requeueErrors c.site.clock).2
  | .clock now => { c with site := { c.site with clock := now } }
  | .refuse refusing => c.withStore { c.store with refusing }
  | .failClaims count => c.withStore { c.store with failingClaims := count }
  | .failNext count => c.withBus { c.bus with failing := count }
  | .failTopic topic => c.withBus { c.bus with failingTopics := topic :: c.bus.failingTopics }

/-- What some moves do, one after another. -/
def run (c : Crew) (moves : List Move) : Crew := moves.foldl step c

/-- The envelopes that the bus took and that their cycles did not mark yet. -/
def inFlight (c : Crew) : List Envelope := c.workers.filterMap fun w => w.stage.sent?

/-- The envelopes that are claimed. -/
def held (c : Crew) : List Envelope := c.workers.filterMap fun w => w.stage.held?

end Crew

end Accounts.Outbox
