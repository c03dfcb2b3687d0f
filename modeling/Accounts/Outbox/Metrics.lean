import Accounts.Outbox.Cycle
/-!
# What the relay counts

Two counters count deliveries and failures, and two gauges hold the backlog as it
was when it was last looked up.  A registry holds the figures of several services;
registering a service again leaves its figures as they are.
-/

namespace Accounts.Outbox

/-- The figures of a relay. -/
structure Metrics where
  /-- How many envelopes waited when the backlog was looked up. -/
  pending : Int
  /-- How many seconds the oldest of them had waited then. -/
  oldestAge : Int
  /-- How many envelopes were delivered. -/
  delivered : Nat
  /-- How many envelopes the bus did not take. -/
  failed : Nat
deriving DecidableEq, Repr, Inhabited

namespace Metrics

/-- The figures at the start. -/
def zero : Metrics := ⟨0, 0, 0, 0⟩

/-- The figures as JSON. -/
def json (m : Metrics) : Json := .ofFields [
  ("pending", .ofInt m.pending),
  ("oldest_pending_age_seconds", .ofInt m.oldestAge),
  ("delivered", .ofNat m.delivered),
  ("failed", .ofNat m.failed)]

/-- Counts the end of a cycle. -/
def count (m : Metrics) : Outcome → Metrics
  | .idle => m
  | .delivered _ => { m with delivered := m.delivered + 1 }
  | .failed _ => { m with failed := m.failed + 1 }

/-- Notes the backlog. -/
def look (m : Metrics) (b : Backlog) : Metrics :=
  { m with pending := b.pending, oldestAge := b.oldestAge }

end Metrics

/-- One kind of figure. -/
structure Family where
  /-- Its name. -/
  name : String
  /-- What it tells. -/
  help : String
  /-- It only grows. -/
  growing : Bool
  /-- Its value. -/
  value : Metrics → Int

/-- The figures that are shown. -/
def families : List Family := [
  ⟨"outbox_delivered_total", "Total number of outbox envelopes published and marked done",
    true, fun m => m.delivered⟩,
  ⟨"outbox_failed_total", "Total number of outbox envelopes marked error after a failed publish",
    true, fun m => m.failed⟩,
  ⟨"outbox_oldest_pending_age_seconds", "Age in seconds of the oldest pending outbox envelope",
    false, Metrics.oldestAge⟩,
  ⟨"outbox_pending_count", "Number of outbox envelopes waiting to be relayed",
    false, Metrics.pending⟩]

/-- A kind of figure of a service as JSON. -/
def Family.json (f : Family) (service : String) (m : Metrics) : Json := .ofFields [
  ("help", .string f.help),
  ("type", .string (if f.growing then "COUNTER" else "GAUGE")),
  ("labels", .ofFields [("service", .string service)]),
  ("value", .ofInt (f.value m))]

/-- The figures of several services, in the order of their names. -/
abbrev Registry := List (String × Metrics)

/-- Registers the figures of a service, unless it has some already. -/
def Registry.register (r : Registry) (service : String) (m : Metrics) : Registry :=
  if (r.lookup service).isSome then r else Json.insertField service m r

/-- The figures of the first service as JSON, each kind under its name. -/
def Registry.json : Registry → Json
  | [] => .ofFields []
  | (service, m) :: _ => .ofFields (families.map fun f => (f.name, f.json service m))

end Accounts.Outbox
