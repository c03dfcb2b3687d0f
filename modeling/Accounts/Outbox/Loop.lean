import Accounts.Outbox.Cycle
/-!
# The loop of the relay

Between two cycles the relay first looks at its switch, and then waits for the
next tick or for a signal.  A signal is a new value of the switch, or that nobody
can send one any more.  When tick and signal are there at once, either may be
taken.  A cycle that has begun is never broken off, because the loop does not look
at the switch during a cycle.

Ticks come at a steady pace.  A tick that is taken more than 5 milliseconds late
delays those that follow.
-/

namespace Accounts.Outbox

/-- The switch of a relay. -/
structure Switch where
  /-- The relay is told to stop. -/
  on : Bool
  /-- A value was sent that the relay did not take note of. -/
  changed : Bool
  /-- Nobody can send a value any more. -/
  closed : Bool
deriving DecidableEq, Repr, Inhabited

namespace Switch

/-- The switch of a relay that starts. -/
def initial (stopped : Bool) : Switch := ⟨stopped, false, false⟩

/-- Sends a value. -/
def send (s : Switch) (value : Bool) : Switch := { s with on := value, changed := true }

/-- Takes note of the value that was sent. -/
def note (s : Switch) : Switch := { s with changed := false }

/-- The last who could send a value is gone. -/
def close (s : Switch) : Switch := { s with closed := true }

end Switch

/-- When ticks are due, in milliseconds. -/
structure Ticker where
  /-- The time between two ticks. -/
  period : Nat
  /-- When the next tick is due. -/
  due : Nat
  /-- There is time between two ticks. -/
  period_pos : 0 < period

namespace Ticker

/-- How late a tick may be taken without delaying the next. -/
def tolerance : Nat := 5

/-- The ticker after a tick is taken. -/
def next (t : Ticker) (now : Nat) : Ticker :=
  { t with due := if t.due + tolerance < now then now + t.period else t.due + t.period }

theorem lt_next_due (t : Ticker) (now : Nat) : t.due < (t.next now).due := by
  have := t.period_pos
  unfold next
  dsimp only
  split <;> omega

end Ticker

/-- Which of a tick and a signal is taken when both are there. -/
inductive Preference
  /-- The signal. -/
  | signal
  /-- The tick. -/
  | tick
deriving DecidableEq, Repr

/-- What the relay does next. -/
inductive Decision
  /-- It ends. -/
  | stop
  /-- It takes note of a value and looks at the switch again. -/
  | lookAgain
  /-- It starts a cycle. -/
  | cycle
  /-- It waits on. -/
  | wait
deriving DecidableEq, Repr

/-- The decision of a relay that waits for a tick or a signal. -/
def Switch.select (s : Switch) (ticked : Bool) (p : Preference) : Decision :=
  if (s.changed || s.closed) && (p == .signal || !ticked) then
    if s.changed && !s.on then .lookAgain else .stop
  else if ticked then .cycle
  else .wait

/-- The decision of a relay that looks at the switch before it waits. -/
def Switch.enter (s : Switch) (ticked : Bool) (p : Preference) : Decision :=
  if s.on then .stop else s.select ticked p

/-- A relay looks at the switch again only after a value was sent. -/
theorem Switch.changed_of_enter {s : Switch} {ticked : Bool} {p : Preference}
    (h : s.enter ticked p = .lookAgain) : s.changed = true := by
  unfold enter select at h
  cases hc : s.changed <;> grind

/-- A cycle starts only at a tick. -/
theorem Switch.ticked_of_enter {s : Switch} {ticked : Bool} {p : Preference}
    (h : s.enter ticked p = .cycle) : ticked = true := by
  unfold enter select at h
  cases ticked <;> grind

/-- The cycle after which the backlog is looked up, and every multiple of it. -/
def backlogTicks : Nat := 20

end Accounts.Outbox
