import Accounts.Outbox.Loop
import Accounts.Outbox.Metrics
/-!
# Relays in time

Several relays share an outbox in memory and a bus that takes a while for every
message.  Time is counted in milliseconds and moves from event to event: a relay
waits for a tick, for a signal or for the bus, and what falls on the same
millisecond happens in the order in which it was awaited.

The instants that the outbox writes down come from a clock of its own, which the
one who drives the timeline sets.
-/

namespace Accounts.Outbox

/-- Where a relay stands. -/
inductive Phase
  /-- It did not run yet. -/
  | fresh (period : Nat)
  /-- It waits for a tick or a signal. -/
  | waiting (ticker : Ticker)
  /-- It waits for the bus, in the middle of a cycle. -/
  | publishing (ticker : Ticker) (message : Message)
      (next : Except OutboxError Unit → Relaying (Except OutboxError Outcome))
  /-- It ended, in good order or because it cannot tick. -/
  | ended (orderly : Bool)

/-- A relay that was started. -/
structure Relay where
  /-- It counts what it does. -/
  metered : Bool
  /-- How many ticks it took. -/
  ticks : Nat
  /-- Its switch. -/
  switch : Switch
  /-- Where it stands. -/
  phase : Phase
  /-- When it goes on by itself. -/
  wake : Nat
  /-- Its place among those that go on in the same millisecond. -/
  turn : Nat

/-- The relay came to its end. -/
def Relay.hasEnded (r : Relay) : Bool :=
  match r.phase with
  | .ended _ => true
  | _ => false

/-- The relay goes on before a millisecond. -/
def Relay.wakesBefore (limit : Nat) (r : Relay) : Bool := !r.hasEnded && r.wake < limit

/-- One relay goes on before another. -/
def Relay.goesBefore (a b : Relay) : Bool :=
  a.wake < b.wake || (a.wake == b.wake && a.turn < b.turn)

/-- Relays, their outbox and their bus. -/
structure Timeline where
  /-- The current millisecond. -/
  now : Nat
  /-- The instant that the outbox writes down. -/
  clock : Instant
  /-- How long the bus takes for a message. -/
  delay : Nat
  /-- The outbox. -/
  store : Store
  /-- The bus. -/
  recorder : Recorder
  /-- What is counted. -/
  metrics : Metrics
  /-- The relays, in the order in which they were started. -/
  relays : List Relay
  /-- The next place among those that go on in the same millisecond. -/
  turn : Nat

namespace Timeline

/-- Nothing is stored, sent or running. -/
def start (clock : Instant) (delay : Nat) : Timeline :=
  ⟨0, clock, delay, .empty, .empty, .zero, [], 0⟩

/-- Replies to a question of a cycle. -/
def reply (w : Timeline) (metered : Bool) : (c : RelayCall) → c.Reply × Timeline
  | .claim => let (r, s) := w.store.claim; (r, { w with store := s })
  | .publish m => let (r, b) := w.recorder.publish m; (r, { w with recorder := b })
  | .mark id status =>
    let (r, s) := w.store.mark w.clock id status; (r, { w with store := s })
  | .release id => ((), { w with store := w.store.release id })
  | .count o => ((), if metered then { w with metrics := w.metrics.count o } else w)
  | .note _ => ((), w)

/-- How far a dialogue came. -/
inductive Progress (α : Type)
  /-- It is over. -/
  | over (result : α)
  /-- It waits for the bus. -/
  | publishing (message : Message) (next : Except OutboxError Unit → Relaying α)

/-- Runs a dialogue until it is over or has to wait for the bus. -/
def proceed {α : Type} (w : Timeline) (metered : Bool) : Relaying α → Progress α × Timeline
  | .done a => (.over a, w)
  | .ask (.publish m) next =>
    if w.delay = 0 then
      let (r, w) := w.reply metered (.publish m)
      w.proceed metered (next r)
    else (.publishing m next, w)
  | .ask q next =>
    let (r, w) := w.reply metered q
    w.proceed metered (next r)

/-- Takes the next place among those that go on in the same millisecond. -/
def await (w : Timeline) (r : Relay) (phase : Phase) (wake : Nat) : Relay × Timeline :=
  ({ r with phase, wake, turn := w.turn }, { w with turn := w.turn + 1 })

/-- What a metered relay does after every so many ticks. -/
def afterCycle (w : Timeline) (r : Relay) : Relay × Timeline :=
  let ticks := r.ticks + 1
  ({ r with ticks },
    if ticks % backlogTicks = 0 ∧ r.metered then
      { w with metrics := w.metrics.look (w.store.backlog w.clock) }
    else w)

/-- Runs a relay that is about to look at its switch, until it waits or ends.  When a tick and a
signal are there at once, it takes the tick. -/
def loop (now : Nat) (w : Timeline) (r : Relay) (ticker : Ticker) : Relay × Timeline :=
  match _h : r.switch.enter (ticker.due ≤ now) .tick with
  | .stop => ({ r with phase := .ended true }, w)
  | .wait => w.await r (.waiting ticker) ticker.due
  | .lookAgain => loop now w { r with switch := r.switch.note } ticker
  | .cycle =>
    match w.proceed r.metered cycle with
    | (.over _, w) =>
      let (r, w) := w.afterCycle r
      loop now w r (ticker.next now)
    | (.publishing m next, w) =>
      w.await r (.publishing (ticker.next now) m next) (now + w.delay)
termination_by (now + 1 - ticker.due, r.switch.changed.toNat)
decreasing_by
  · simp [Switch.note, Switch.changed_of_enter _h, Prod.lex_def]
  · have := ticker.lt_next_due now
    have := of_decide_eq_true (Switch.ticked_of_enter _h)
    simp only [Prod.lex_def]
    omega

/-- Lets a relay go on. -/
def resume (w : Timeline) (r : Relay) : Relay × Timeline :=
  match r.phase with
  | .ended _ => (r, w)
  | .fresh period =>
    if h : 0 < period then loop w.now w r ⟨period, w.now, h⟩
    else ({ r with phase := .ended false }, w)
  | .waiting ticker => loop w.now w r ticker
  | .publishing ticker m next =>
    let (result, w) := w.reply r.metered (.publish m)
    match w.proceed r.metered (next result) with
    | (.over _, w) =>
      let (r, w) := w.afterCycle r
      loop w.now w r ticker
    | (.publishing m next, w) => w.await r (.publishing ticker m next) (w.now + w.delay)

/-! ## Events -/

/-- The place of the relay that goes on next, if one goes on before a millisecond. -/
def next? (limit : Nat) (relays : List Relay) : Option Nat :=
  let first := relays.zipIdx.foldl (fun best (r, i) =>
    if r.wakesBefore limit then
      match best with
      | some (b, _) => if Relay.goesBefore b r then best else some (r, i)
      | none => some (r, i)
    else best) (none : Option (Relay × Nat))
  first.map Prod.snd

/-- Lets the relay at a place go on. -/
def resumeAt (w : Timeline) (i : Nat) : Timeline :=
  match w.relays[i]? with
  | none => w
  | some r =>
    let w := { w with now := max w.now r.wake }
    let (r, w) := w.resume r
    { w with relays := w.relays.set i r }

/-- Lets up to `fuel` relays go on, as long as one goes on before a millisecond and
the relay at the place `until?` has not ended. -/
def runBefore (limit : Nat) (until? : Option Nat) : Nat → Timeline → Timeline
  | 0, w => w
  | fuel + 1, w =>
    if (until?.bind (w.relays[·]?)).any Relay.hasEnded then w
    else
      match next? limit w.relays with
      | none => w
      | some i => runBefore limit until? fuel (w.resumeAt i)

/-- The number of events before a millisecond: no relay goes on twice in one. -/
def eventBound (w : Timeline) (limit : Nat) : Nat := w.relays.length * (limit - w.now + 2)

/-- Lets time pass.  What falls on the last millisecond does not happen yet. -/
def advance (w : Timeline) (ms : Nat) : Timeline :=
  let limit := w.now + ms
  { runBefore limit none (w.eventBound limit) w with now := limit }

/-! ## Relays from outside -/

/-- Starts a relay; it runs when time passes. -/
def spawn (w : Timeline) (period : Nat) (metered stopped : Bool) : Timeline :=
  { w with
    relays := w.relays ++ [⟨metered, 0, .initial stopped, .fresh period, w.now, w.turn⟩]
    turn := w.turn + 1 }

/-- Changes the switch of a relay, which wakes it when it waits. -/
def signalAt (w : Timeline) (i : Nat) (f : Switch → Switch) : Timeline :=
  match w.relays[i]? with
  | none => w
  | some r =>
    if r.hasEnded then w
    else
      let r := { r with switch := f r.switch }
      match r.phase with
      | .waiting ticker =>
        let (r, w) := w.await r (.waiting ticker) (min r.wake w.now)
        { w with relays := w.relays.set i r }
      | _ => { w with relays := w.relays.set i r }

/-- Sends a value to a relay. -/
def send (w : Timeline) (i : Nat) (value : Bool) : Timeline := w.signalAt i (·.send value)

/-- The last who could send a value to a relay is gone. -/
def dropSender (w : Timeline) (i : Nat) : Timeline := w.signalAt i Switch.close

/-- Tells a relay to stop, and lets time pass until it has ended. -/
def shutdown (w : Timeline) (i : Nat) : Timeline :=
  let w := w.send i true
  let limit := ((w.relays[i]?).elim w.now Relay.wake) + 1
  runBefore limit (some i) (w.eventBound limit) w

/-- Runs a dialogue, letting time pass while the bus is at work. -/
def perform {α : Type} (w : Timeline) (metered : Bool) : Relaying α → α × Timeline
  | .done a => (a, w)
  | .ask (.publish m) next =>
    let (r, w) := (w.advance w.delay).reply metered (.publish m)
    w.perform metered (next r)
  | .ask q next =>
    let (r, w) := w.reply metered q
    w.perform metered (next r)

end Timeline

end Accounts.Outbox
