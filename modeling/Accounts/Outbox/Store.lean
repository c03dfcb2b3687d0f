import Accounts.Outbox.Envelope
import Accounts.Outbox.Error
/-!
# The outbox in memory

Envelopes are kept in the order in which they were stored, which is also the
order of their numbers: the first is 1, and no number is left out or used twice.
A claim locks an envelope until it is released; the number of the envelope stands
for the claim.  Of the envelopes that wait and are not locked, the oldest is
claimed first.

Two switches make the outbox fail: one refuses everything that is stored, the
other lets the next few claims fail.
-/

namespace Accounts.Outbox

/-- The envelopes in memory. -/
structure Store where
  /-- The envelopes, in the order of their numbers. -/
  rows : List Envelope
  /-- The numbers of the claimed envelopes. -/
  locked : List Int
  /-- Nothing can be stored. -/
  refusing : Bool
  /-- How many of the next claims fail. -/
  failingClaims : Nat
deriving Inhabited

/-- The backlog in numbers. -/
structure Backlog where
  /-- How many envelopes wait, claimed ones included. -/
  pending : Int
  /-- How many seconds the oldest of them has waited. -/
  oldestAge : Int
deriving DecidableEq, Repr

/-- The backlog as JSON. -/
def Backlog.json (b : Backlog) : Json := .ofFields [
  ("pending", .ofInt b.pending),
  ("oldest_age_seconds", .ofInt b.oldestAge)]

namespace Store

/-- The empty outbox. -/
def empty : Store := ⟨[], [], false, 0⟩

/-- New events as envelopes, numbered from `id` on. -/
def fresh (now : Instant) (id : Int) : List NewEnvelope → List Envelope
  | [] => []
  | e :: es => ⟨id, e.topic, e.payload, .created, now, now⟩ :: fresh now (id + 1) es

/-- Stores all events, or none of them. -/
def append (s : Store) (now : Instant) (events : List NewEnvelope) :
    Except OutboxError (List Int × Store) :=
  if s.refusing then .error (.other "outbox append rejected" [])
  else
    let added := fresh now (s.rows.length + 1) events
    .ok (added.map Envelope.id, { s with rows := s.rows ++ added })

/-- The envelope can be claimed. -/
def eligible (s : Store) (e : Envelope) : Bool :=
  e.status == .created && !s.locked.contains e.id

/-- One envelope goes before another. -/
def before (a b : Envelope) : Bool :=
  a.createdAt.lt b.createdAt || (a.createdAt == b.createdAt && a.id < b.id)

/-- The envelope that goes before all others. -/
def oldest? : List Envelope → Option Envelope
  | [] => none
  | e :: es => some <| match oldest? es with
    | none => e
    | some o => if before o e then o else e

/-- The envelope that is claimed next. -/
def candidate? (s : Store) : Option Envelope := oldest? (s.rows.filter s.eligible)

/-- Claims the next envelope. -/
def claim (s : Store) : Except OutboxError (Option Envelope) × Store :=
  if s.failingClaims = 0 then
    match s.candidate? with
    | none => (.ok none, s)
    | some e => (.ok (some e), { s with locked := e.id :: s.locked })
  else (.error (.other "connection lost during claim" []),
    { s with failingClaims := s.failingClaims - 1 })

/-- The envelope of a number. -/
def find? (s : Store) (id : Int) : Option Envelope := s.rows.find? (·.id == id)

/-- Where the envelope of a number stands. -/
def statusOf (s : Store) (id : Int) : Option Status := (s.find? id).map Envelope.status

/-- Changes where the envelope of a number stands. -/
def setStatus (s : Store) (now : Instant) (id : Int) (status : Status) : Store :=
  { s with rows := s.rows.map fun e =>
      if e.id == id then { e with status, updatedAt := now } else e }

/-- Marks a claimed envelope. -/
def mark (s : Store) (now : Instant) (id : Int) (status : Status) :
    Except OutboxError Unit × Store :=
  if (s.find? id).isSome then (.ok (), s.setStatus now id status)
  else (.error (.envelopeNotFound id), s)

/-- Lets go of a claim. -/
def release (s : Store) (id : Int) : Store := { s with locked := s.locked.erase id }

/-- The envelope is back among those that wait. -/
def requeued (now : Instant) (e : Envelope) : Envelope :=
  if e.status = .error then { e with status := .created, updatedAt := now } else e

/-- Puts all envelopes back whose delivery failed, and says how many there were. -/
def requeueErrors (s : Store) (now : Instant) : Nat × Store :=
  (s.rows.countP (·.status == .error), { s with rows := s.rows.map (requeued now) })

/-- The envelopes that wait, claimed ones included. -/
def waiting (s : Store) : List Envelope := s.rows.filter (·.status == .created)

/-- The backlog. -/
def backlog (s : Store) (now : Instant) : Backlog where
  pending := s.waiting.length
  oldestAge := ((oldest? s.waiting).map fun e => e.createdAt.secondsBetween now).getD 0

/-! ## What stays -/

theorem map_id_fresh (now : Instant) (id : Int) (es : List NewEnvelope) :
    (fresh now id es).map Envelope.id =
      (List.range es.length).map fun k : Nat => id + (k : Int) := by
  induction es generalizing id with
  | nil => rfl
  | cons e es ih =>
    simp only [fresh, List.map_cons, ih, List.length_cons, List.range_succ_eq_map, List.map_map,
      Int.natCast_zero, Int.add_zero, List.cons.injEq, true_and]
    apply List.map_congr_left
    intro k _
    simp only [Function.comp_apply, Int.natCast_succ]
    omega

theorem length_fresh (now : Instant) (id : Int) (es : List NewEnvelope) :
    (fresh now id es).length = es.length := by
  simpa using congrArg List.length (map_id_fresh now id es)

/-- Everything new waits. -/
theorem status_of_mem_fresh {now : Instant} {id : Int} {es : List NewEnvelope} {e : Envelope}
    (h : e ∈ fresh now id es) : e.status = .created := by
  induction es generalizing id with
  | nil => simp [fresh] at h
  | cons x es ih =>
    rcases List.mem_cons.1 h with rfl | h
    · rfl
    · exact ih h

/-- An outbox that refuses stores nothing. -/
theorem append_of_refusing {s : Store} (h : s.refusing = true) (now : Instant)
    (es : List NewEnvelope) : s.append now es = .error (.other "outbox append rejected" []) := by
  simp [append, h]

theorem oldest?_mem {es : List Envelope} {e : Envelope} (h : oldest? es = some e) : e ∈ es := by
  induction es generalizing e with
  | nil => simp [oldest?] at h
  | cons x es ih =>
    simp only [oldest?, Option.some.injEq] at h
    cases hx : oldest? es with
    | none => simp_all
    | some o =>
      have := ih hx
      grind

theorem oldest?_eq_none {es : List Envelope} : oldest? es = none ↔ es = [] := by
  cases es <;> simp [oldest?]

theorem candidate?_mem {s : Store} {e : Envelope} (h : s.candidate? = some e) : e ∈ s.rows :=
  (List.mem_filter.1 (oldest?_mem h)).1

theorem eligible_of_candidate? {s : Store} {e : Envelope} (h : s.candidate? = some e) :
    s.eligible e = true :=
  (List.mem_filter.1 (oldest?_mem h)).2

@[simp] theorem rows_claim (s : Store) : s.claim.2.rows = s.rows := by
  unfold claim
  split
  · split <;> rfl
  · rfl

@[simp] theorem rows_release (s : Store) (id : Int) : (s.release id).rows = s.rows := rfl

@[simp] theorem locked_mark (s : Store) (now : Instant) (id : Int) (status : Status) :
    (s.mark now id status).2.locked = s.locked := by
  unfold mark
  split <;> rfl

theorem requeued_of_ne {now : Instant} {e : Envelope} (h : e.status ≠ .error) :
    requeued now e = e := by
  simp [requeued, h]

/-- Nothing is left to put back. -/
theorem requeueErrors_requeueErrors (s : Store) (now later : Instant) :
    ((s.requeueErrors now).2.requeueErrors later).1 = 0 := by
  simp only [requeueErrors, List.countP_eq_zero, List.mem_map]
  rintro _ ⟨e, _, rfl⟩
  unfold requeued
  split <;> simp_all

end Store

end Accounts.Outbox
