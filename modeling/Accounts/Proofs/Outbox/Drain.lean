import Accounts.Outbox.Timeline
import Accounts.Proofs.Outbox.Queue
/-!
# Relays that drain an outbox

Each of some relays does one cycle after another until a cycle finds nothing.  In a turn one of
them asks the next question of its cycle, or writes down the result of a cycle that is over; any
of them may be next.  Nothing is stored and nothing is put back meanwhile.  What the bus says of
a message is not restricted, nor is the instant that is written down.

What a relay still has to do is one of a few dialogues, which a `Point` names.  `Point.Steps`
says once what a turn makes of a point and of the outbox, and `Drain.turn_steps` that it says
everything.
-/

namespace Accounts.Outbox

/-! ## Questions -/

/-- What the surroundings of a question are like. -/
structure Occasion where
  /-- The instant that the outbox writes down. -/
  now : Instant
  /-- What the bus says of a message. -/
  taken : Except OutboxError Unit

/-- Replies to a question of a cycle. -/
def Store.reply (s : Store) (o : Occasion) : (q : RelayCall) → q.Reply × Store
  | .claim => s.claim
  | .publish _ => (o.taken, s)
  | .mark id status => s.mark o.now id status
  | .release id => ((), s.release id)
  | .count _ | .note _ => ((), s)

/-- Relays in time ask the outbox in the same way. -/
theorem Timeline.reply_eq (w : Timeline) (metered : Bool) (q : RelayCall) :
    ∃ o, w.store.reply o q = ((w.reply metered q).1, (w.reply metered q).2.store) := by
  cases q with
  | claim => exact ⟨⟨w.clock, .ok ()⟩, rfl⟩
  | publish m => exact ⟨⟨w.clock, (w.recorder.publish m).1⟩, rfl⟩
  | mark id status => exact ⟨⟨w.clock, .ok ()⟩, rfl⟩
  | release id => exact ⟨⟨w.clock, .ok ()⟩, rfl⟩
  | count outcome =>
      refine ⟨⟨w.clock, .ok ()⟩, ?_⟩
      cases metered <;> rfl
  | note entry => exact ⟨⟨w.clock, .ok ()⟩, rfl⟩

/-! ## Drains -/

/-- A claim, with the outbox before and after it. -/
structure Claiming where
  /-- The outbox before it. -/
  before : Store
  /-- The reply. -/
  reply : Except OutboxError (Option Envelope)
  /-- The outbox after it. -/
  after : Store

namespace Claiming

/-- The claim that a question is, if it is one. -/
def of (before after : Store) : (q : RelayCall) → q.Reply → List Claiming
  | .claim, r => [⟨before, r, after⟩]
  | _, _ => []

/-- What was claimed. -/
def found (c : Claiming) : List Envelope :=
  match c.reply with
  | .ok (some e) => [e]
  | _ => []

/-- The claim failed. -/
def Fails (c : Claiming) : Prop := ∃ f, c.reply = .error f

end Claiming

/-- The number of a row and how it was marked. -/
abbrev Verdict := Int × Bool

/-- What a result says of a row. -/
def verdictsOf : Except OutboxError Outcome → List Verdict
  | .ok (.delivered id) => [(id, true)]
  | .ok (.failed id) => [(id, false)]
  | _ => []

/-- The cycle found nothing. -/
def idles : Except OutboxError Outcome → Bool
  | .ok .idle => true
  | _ => false

/-- The cycle failed. -/
def fails : Except OutboxError Outcome → Bool
  | .error _ => true
  | .ok _ => false

/-- Relays that drain an outbox. -/
structure Drain where
  /-- The outbox. -/
  store : Store
  /-- What each relay still has to do in its cycle, if it did not stop. -/
  relays : List (Option (Relaying (Except OutboxError Outcome)))
  /-- The results of the cycles, in the order in which they ended. -/
  results : List (Except OutboxError Outcome)
  /-- The claims, in their order. -/
  claims : List Claiming

/-- What a relay does after a cycle: it stops when nothing waited. -/
def resume : Except OutboxError Outcome → Option (Relaying (Except OutboxError Outcome))
  | .ok .idle => none
  | _ => some cycle

namespace Drain

/-- So many relays are about to begin. -/
def start (s : Store) (relays : Nat) : Drain := ⟨s, List.replicate relays (some cycle), [], []⟩

/-- The relay at a place goes on. -/
def turn (d : Drain) (place : Nat) (o : Occasion) : Drain :=
  match d.relays[place]? with
  | some (some (.ask q next)) =>
    let (r, s) := d.store.reply o q
    { d with
      store := s
      relays := d.relays.set place (some (next r))
      claims := d.claims ++ Claiming.of d.store s q r }
  | some (some (.done r)) =>
    { d with relays := d.relays.set place (resume r), results := d.results ++ [r] }
  | _ => d

/-- Some turns, one after another. -/
def run (d : Drain) (turns : List (Nat × Occasion)) : Drain :=
  turns.foldl (fun d t => d.turn t.1 t.2) d

/-- The relay at a place did not stop. -/
def Works (d : Drain) (place : Nat) : Prop := ∃ rest, d.relays[place]? = some (some rest)

/-- Every turn is that of a relay that did not stop. -/
def Busy : Drain → List (Nat × Occasion) → Prop
  | _, [] => True
  | d, t :: turns => d.Works t.1 ∧ (d.turn t.1 t.2).Busy turns

/-- All relays stopped. -/
def Over (d : Drain) : Prop := ∀ r ∈ d.relays, r = none

/-- What was claimed, as it was then. -/
def claimed (d : Drain) : List Envelope := d.claims.flatMap Claiming.found

/-- What the results say of the rows. -/
def verdicts (d : Drain) : List Verdict := d.results.flatMap verdictsOf

end Drain

/-! ## Points of a cycle -/

/-- Where a relay stands. -/
inductive Point
  /-- It stopped. -/
  | stopped
  /-- It is about to claim. -/
  | ready
  /-- It is about to hand an envelope to the bus. -/
  | handing (e : Envelope)
  /-- It is about to tell that the bus did not take an envelope. -/
  | refusing (e : Envelope) (reason : OutboxError)
  /-- It is about to mark an envelope. -/
  | marking (e : Envelope) (delivered : Bool)
  /-- It is about to let go of an envelope. -/
  | releasing (e : Envelope) (delivered : Bool)
  /-- It is about to count an envelope. -/
  | counting (e : Envelope) (delivered : Bool)
  /-- It is about to tell that an envelope was delivered. -/
  | telling (e : Envelope)
  /-- Its cycle is over. -/
  | finished (result : Except OutboxError Outcome)

namespace Point

/-- What follows on marking an envelope. -/
def afterMark (e : Envelope) (delivered : Bool) :
    Except OutboxError Unit → Relaying (Except OutboxError Outcome)
  | .error f => .done (.error f)
  | .ok () =>
    if delivered then
      .ask (.count (.delivered e.id)) fun _ =>
        .ask (.note (.relayed e.id e.topic)) fun _ => .done (.ok (.delivered e.id))
    else .ask (.count (.failed e.id)) fun _ => .done (.ok (.failed e.id))

/-- What a relay still has to do. -/
def rest : Point → Option (Relaying (Except OutboxError Outcome))
  | stopped => none
  | ready => some cycle
  | handing e => some (afterClaim (.ok (some e)))
  | refusing e reason => some (finishRefused e reason)
  | marking e delivered =>
    some ((settle e (Clients.verdict delivered)).bind (afterMark e delivered))
  | releasing e delivered => some (.ask (.release e.id) fun _ => afterMark e delivered (.ok ()))
  | counting e delivered => some (afterMark e delivered (.ok ()))
  | telling e => some (.ask (.note (.relayed e.id e.topic)) fun _ => .done (.ok (.delivered e.id)))
  | finished r => some (.done r)

theorem rest_eq_none {p : Point} : p.rest = none ↔ p = stopped := by
  cases p <;> simp [rest]

/-! ### What a point says -/

/-- The live claim of a relay. -/
def claims : Point → List Claim
  | handing e | refusing e _ | marking e _ => [⟨e, false⟩]
  | releasing e _ => [⟨e, true⟩]
  | _ => []

/-- How a relay marked a row, in a cycle whose result is not written down yet. -/
def verdicts : Point → List Verdict
  | releasing e delivered | counting e delivered => [(e.id, delivered)]
  | telling e => [(e.id, true)]
  | finished r => verdictsOf r
  | _ => []

/-- The number of the row that a cycle is about. -/
def subjects : Point → List Int
  | handing e | refusing e _ | marking e _ | releasing e _ | counting e _ | telling e => [e.id]
  | finished r => (verdictsOf r).map Prod.fst
  | _ => []

/-- The cycle failed. -/
def faulty : Point → Bool
  | finished r => fails r
  | _ => false

def isStopped : Point → Bool
  | stopped => true
  | _ => false

/-- The relay found nothing. -/
def dry : Point → Bool
  | stopped => true
  | finished r => idles r
  | _ => false

/-- How many turns a relay takes until it is about to claim again, and two more; if it is on
its way to stop, until then. -/
def load : Point → Nat
  | stopped => 0
  | ready => 2
  | handing _ => 8
  | refusing _ _ | marking _ true => 7
  | marking _ false | releasing _ true => 6
  | releasing _ false | counting _ true => 5
  | counting _ false | telling _ => 4
  | finished r => if idles r then 1 else 3

theorem load_eq_zero {p : Point} : p.load = 0 ↔ p = stopped := by
  cases p with
  | marking _ delivered | releasing _ delivered | counting _ delivered =>
      cases delivered <;> simp [load]
  | finished r => cases h : idles r <;> simp [load, h]
  | _ => simp [load]

/-! ### Steps -/

/-- Steps that make no difference to the outbox: what the bus says, and what is counted or told
to those who look on. -/
inductive Quiet : Point → Point → Prop
  | taken (e : Envelope) : Quiet (handing e) (marking e true)
  | refused (e : Envelope) (reason : OutboxError) : Quiet (handing e) (refusing e reason)
  | told (e : Envelope) (reason : OutboxError) : Quiet (refusing e reason) (marking e false)
  | delivered (e : Envelope) : Quiet (counting e true) (telling e)
  | failed (e : Envelope) : Quiet (counting e false) (finished (.ok (.failed e.id)))
  | relayed (e : Envelope) : Quiet (telling e) (finished (.ok (.delivered e.id)))

namespace Quiet

variable {p p' : Point}

theorem claims (h : Quiet p p') : p'.claims = p.claims := by
  cases h <;> rfl

theorem verdicts (h : Quiet p p') : p'.verdicts = p.verdicts := by
  cases h <;> rfl

theorem subjects (h : Quiet p p') : p'.subjects = p.subjects := by
  cases h <;> rfl

/-- The cycle goes on, or it delivered or failed a row. -/
theorem goes_on (h : Quiet p p') :
    p.faulty = false ∧ p'.faulty = false ∧ p'.dry = false := by
  cases h <;> exact ⟨rfl, rfl, rfl⟩

theorem load (h : Quiet p p') : p'.load + 1 = p.load := by
  cases h <;> rfl

end Quiet

/-- What follows on a result. -/
def next (r : Except OutboxError Outcome) : Point := if idles r then stopped else ready

section next

variable (r : Except OutboxError Outcome)

@[simp] theorem claims_next : (next r).claims = [] := by
  unfold next
  cases idles r <;> rfl

@[simp] theorem verdicts_next : (next r).verdicts = [] := by
  unfold next
  cases idles r <;> rfl

@[simp] theorem subjects_next : (next r).subjects = [] := by
  unfold next
  cases idles r <;> rfl

@[simp] theorem faulty_next : (next r).faulty = false := by
  unfold next
  cases idles r <;> rfl

@[simp] theorem isStopped_next : (next r).isStopped = idles r := by
  unfold next
  cases idles r <;> rfl

@[simp] theorem dry_next : (next r).dry = idles r := by
  unfold next
  cases idles r <;> rfl

theorem load_next : (next r).load + 1 = (finished r).load := by
  rcases r with f | o
  · rfl
  · cases o <;> rfl

theorem rest_next : (next r).rest = resume r := by
  rcases r with f | o
  · rfl
  · cases o <;> rfl

end next

/-- What a turn makes of a point and of the outbox, with the results and the claims that it
adds. -/
inductive Steps (s : Store) :
    Point → Point → Store → List (Except OutboxError Outcome) → List Claiming → Prop
  | failed {f : OutboxError} (fails : 0 < s.failingClaims) (transient : f.isTransient = true) :
      Steps s ready (finished (.error f)) { s with failingClaims := s.failingClaims - 1 } []
        [⟨s, .error f, { s with failingClaims := s.failingClaims - 1 }⟩]
  | nothing (works : s.failingClaims = 0) (none : s.candidate? = none) :
      Steps s ready (finished (.ok .idle)) s [] [⟨s, .ok .none, s⟩]
  | claimed {e : Envelope} (works : s.failingClaims = 0) (found : s.candidate? = some e) :
      Steps s ready (handing e) { s with locked := e.id :: s.locked } []
        [⟨s, .ok (some e), { s with locked := e.id :: s.locked }⟩]
  | quiet {p p' : Point} (h : Quiet p p') : Steps s p p' s [] []
  | marked (e : Envelope) (delivered : Bool) (now : Instant) :
      Steps s (marking e delivered) (releasing e delivered)
        (s.setStatus now e.id (Clients.verdict delivered)) [] []
  | released (e : Envelope) (delivered : Bool) :
      Steps s (releasing e delivered) (counting e delivered) (s.release e.id) [] []
  | ended (r : Except OutboxError Outcome) : Steps s (finished r) (next r) s [r] []

/-- A claim fails, finds nothing or takes the oldest row. -/
theorem steps_claim (s : Store) :
    ∃ p', Steps s ready p' s.claim.2 [] [⟨s, s.claim.1, s.claim.2⟩] ∧
      p'.rest = some (afterClaim s.claim.1) := by
  unfold Store.claim
  split
  · next hworks =>
      cases hfound : s.candidate? with
      | none => exact ⟨_, .nothing hworks hfound, rfl⟩
      | some e => exact ⟨_, .claimed hworks hfound, rfl⟩
  · next hfails => exact ⟨_, .failed (Nat.pos_of_ne_zero hfails) rfl, rfl⟩

end Point

namespace Drain

open Point

variable {d : Drain} {points : List Point} {p : Point} {place : Nat}

/-- A relay asks a question. -/
theorem turn_ask {q : RelayCall} {next : q.Reply → Relaying (Except OutboxError Outcome)}
    (h : d.relays[place]? = some (some (.ask q next))) (o : Occasion) :
    d.turn place o = ⟨(d.store.reply o q).2,
      d.relays.set place (some (next (d.store.reply o q).1)), d.results,
      d.claims ++ Claiming.of d.store (d.store.reply o q).2 q (d.store.reply o q).1⟩ := by
  simp only [turn, h]

/-- A relay writes down the result of its cycle. -/
theorem turn_done {r : Except OutboxError Outcome} (h : d.relays[place]? = some (some (.done r)))
    (o : Occasion) : d.turn place o =
      ⟨d.store, d.relays.set place (resume r), d.results ++ [r], d.claims⟩ := by
  simp only [turn, h]

/-- A turn is a step of the relay at its place. -/
theorem turn_steps (hrelays : d.relays = points.map Point.rest)
    (horderly : Clients.Orderly d.store (points.flatMap Point.claims))
    (hp : points[place]? = some p) (hworks : p ≠ stopped) (o : Occasion) :
    ∃ p' s rs cs, Steps d.store p p' s rs cs ∧ d.turn place o =
      ⟨s, (points.set place p').map Point.rest, d.results ++ rs, d.claims ++ cs⟩ := by
  have hrelay : d.relays[place]? = some p.rest := by
    rw [hrelays, List.getElem?_map, hp]
    rfl
  have hset : ∀ p' : Point, d.relays.set place p'.rest = (points.set place p').map Point.rest :=
    fun p' => by rw [hrelays, List.map_set]
  have hask : ∀ {q : RelayCall} {next : q.Reply → Relaying (Except OutboxError Outcome)}
      {s : Store} {p' : Point}, p.rest = some (.ask q next) → (d.store.reply o q).2 = s →
      some (next (d.store.reply o q).1) = p'.rest →
      d.turn place o = ⟨s, (points.set place p').map Point.rest, d.results ++ [],
        d.claims ++ Claiming.of d.store s q (d.store.reply o q).1⟩ := by
    intro q next s p' hq hs hnext
    rw [turn_ask (hrelay.trans (congrArg some hq)), hs, hnext, hset, List.append_nil]
  cases p with
  | stopped => exact absurd rfl hworks
  | ready =>
      obtain ⟨p', hsteps, hrest⟩ := steps_claim d.store
      exact ⟨p', _, _, _, hsteps, hask rfl rfl hrest.symm⟩
  | handing e =>
      obtain ⟨now, taken⟩ := o
      cases taken with
      | error reason => exact ⟨_, _, _, _, .quiet (.refused e reason), hask rfl rfl rfl⟩
      | ok => exact ⟨_, _, _, _, .quiet (.taken e), hask rfl rfl rfl⟩
  | refusing e reason => exact ⟨_, _, _, _, .quiet (.told e reason), hask rfl rfl rfl⟩
  | marking e delivered =>
      -- The row of a live claim is there, so that it can be marked.
      have hclaims := horderly.perm ((perm_at hp).flatMap_right Point.claims)
      obtain ⟨hmark, -⟩ := Clients.Orderly.mark hclaims o.now (Clients.verdict delivered)
      have hreply : d.store.reply o (.mark e.id (Clients.verdict delivered)) =
          (.ok (), d.store.setStatus o.now e.id (Clients.verdict delivered)) := hmark
      refine ⟨_, _, _, _, .marked e delivered o.now, hask rfl (congrArg Prod.snd hreply) ?_⟩
      rw [hreply]
      rfl
  | releasing e delivered => exact ⟨_, _, _, _, .released e delivered, hask rfl rfl rfl⟩
  | counting e delivered =>
      cases delivered with
      | true => exact ⟨_, _, _, _, .quiet (.delivered e), hask rfl rfl rfl⟩
      | false => exact ⟨_, _, _, _, .quiet (.failed e), hask rfl rfl rfl⟩
  | telling e => exact ⟨_, _, _, _, .quiet (.relayed e), hask rfl rfl rfl⟩
  | finished r =>
      refine ⟨_, _, _, _, .ended r, ?_⟩
      rw [turn_done hrelay, ← hset, rest_next, List.append_nil]

end Drain

end Accounts.Outbox
