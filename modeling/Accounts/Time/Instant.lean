import Accounts.Time.Calendar
/-!
# Instants and spans

An instant is a second since 1970-01-01T00:00:00Z and a number of nanoseconds.
The nanoseconds of a leap second go on from `10^9`, so that it shares the second
with the one before it.  Instants are bounded: the first is the start of the year
-262143, the last the end of the year 262142.

A span is a length of time of at least zero, as long as `2^64` seconds.
-/

namespace Accounts

/-- A point in time. -/
structure Instant where
  /-- Whole seconds since the start of 1970. -/
  seconds : Int
  /-- Nanoseconds within the second, from `10^9` on in a leap second. -/
  nanos : Nat
deriving DecidableEq, Repr, Inhabited

/-- A length of time. -/
structure Span where
  /-- Whole seconds. -/
  seconds : Nat
  /-- Nanoseconds below a second. -/
  nanos : Nat
deriving DecidableEq, Repr

/-- One second in nanoseconds. -/
def nanosPerSecond : Nat := 1000000000

namespace Span

/-- A span of whole seconds. -/
def ofSeconds (n : Nat) : Span := ⟨n, 0⟩

/-- A span of milliseconds. -/
def ofMillis (n : Nat) : Span := ⟨n / 1000, n % 1000 * 1000000⟩

/-- The whole milliseconds of a span. -/
def millis (s : Span) : Nat := s.seconds * 1000 + s.nanos / 1000000

/-- A span that has no length. -/
def isZero (s : Span) : Bool := s.seconds == 0 && s.nanos == 0

end Span

namespace Instant

/-- The second of the first instant. -/
def firstSecond : Int := -8334601228800

/-- The second of the last instant. -/
def lastSecond : Int := 8210266876799

/-- The first instant. -/
def first : Instant := ⟨firstSecond, 0⟩

/-- The last instant. -/
def last : Instant := ⟨lastSecond, 999999999⟩

/-- The instant is neither before the first nor after the last one. -/
def InRange (t : Instant) : Prop :=
  firstSecond ≤ t.seconds ∧ t.seconds ≤ lastSecond ∧ t.nanos < 2 * nanosPerSecond

instance (t : Instant) : Decidable t.InRange := inferInstanceAs (Decidable (_ ∧ _ ∧ _))

/-- The instant at the start of a second. -/
def ofSeconds (s : Int) : Instant := ⟨s, 0⟩

/-- The instant at the start of a second, if there is one. -/
def ofSeconds? (s : Int) : Option Instant :=
  if firstSecond ≤ s ∧ s ≤ lastSecond then some ⟨s, 0⟩ else none

/-- The number of milliseconds that the longest span between two instants has. -/
def longestMillis : Nat := Nat.pow 2 63 - 1

/-- A span can be added to instants. -/
def fits (s : Span) : Bool :=
  s.seconds < longestMillis / 1000 ||
    (s.seconds == longestMillis / 1000 && s.nanos ≤ longestMillis % 1000 * 1000000)

/-- The instant after a span, if it is not too late.  A leap second is left by any
whole second, and by a part of one that reaches its end. -/
def add? (t : Instant) (s : Span) : Option Instant :=
  if nanosPerSecond ≤ t.nanos ∧ s.seconds = 0 ∧ t.nanos + s.nanos < 2 * nanosPerSecond then
    some ⟨t.seconds, t.nanos + s.nanos⟩
  else
    let nanos := (if nanosPerSecond ≤ t.nanos then t.nanos - nanosPerSecond else t.nanos) + s.nanos
    let carry : Nat := if nanosPerSecond ≤ nanos then 1 else 0
    let seconds := t.seconds + s.seconds + carry
    if seconds ≤ lastSecond then
      some ⟨seconds, nanos - carry * nanosPerSecond⟩
    else none

/-- The instant so many seconds before, if there is one. -/
def before? (t : Instant) (seconds : Int) : Option Instant :=
  if firstSecond ≤ t.seconds - seconds ∧ t.seconds - seconds ≤ lastSecond then
    some { t with seconds := t.seconds - seconds }
  else none

/-- One instant is not after another. -/
def le (a b : Instant) : Bool :=
  a.seconds < b.seconds || (a.seconds == b.seconds && a.nanos ≤ b.nanos)

/-- One instant is before another. -/
def lt (a b : Instant) : Bool :=
  a.seconds < b.seconds || (a.seconds == b.seconds && a.nanos < b.nanos)

/-- The whole seconds from one instant to another, toward zero. -/
def secondsBetween (earlier later : Instant) : Int :=
  let nanos := (later.seconds - earlier.seconds) * nanosPerSecond +
    ((later.nanos : Int) - earlier.nanos)
  nanos.tdiv nanosPerSecond

theorem lt_irrefl (t : Instant) : t.lt t = false := by simp [lt]

theorem lt_trans {a b c : Instant} (h : a.lt b = true) (k : b.lt c = true) : a.lt c = true := by
  simp only [lt, Bool.or_eq_true, Bool.and_eq_true, decide_eq_true_eq, beq_iff_eq] at *
  omega

theorem lt_total {a b : Instant} (h : a ≠ b) : a.lt b = true ∨ b.lt a = true := by
  obtain ⟨s, n⟩ := a
  obtain ⟨u, m⟩ := b
  simp only [lt, Bool.or_eq_true, Bool.and_eq_true, decide_eq_true_eq, beq_iff_eq, ne_eq,
    Instant.mk.injEq] at *
  omega

end Instant

end Accounts
