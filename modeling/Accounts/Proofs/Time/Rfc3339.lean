import Accounts.Proofs.Text.Integer
import Accounts.Proofs.Time.Calendar
import Accounts.Time.Rfc3339
/-!
# Instants survive their text

The reader goes through a text from the left, and what a part of it reads is the part that was
written and the rest of the text.  So there is one lemma for each kind of part, and written parts
are read as the parts (`parseLenient_chars`).

The parts of an instant name the instant, because the calendar gives back the day and because a
leap second is the last second of a minute.
-/

namespace Accounts.Instant

open Text

variable {least most width n : Nat} {c : Char} {ds rest : List Char}

/-! ## Parts -/

/-- The written form of parts in universal time. -/
def Parts.chars (p : Parts) : List Char :=
  (yearText p.year).toList ++ '-' :: (padded 2 p.month ++ '-' :: (padded 2 p.day ++ 'T' ::
    (padded 2 p.hour ++ ':' :: (padded 2 p.minute ++ ':' :: (padded 2 p.second ++
      ((fractionText p.nanos).toList ++ ['Z']))))))

/-- Each part is in its range, and the time is universal time. -/
structure Parts.Plain (p : Parts) : Prop where
  year : -262143 ≤ p.year ∧ p.year ≤ 262142
  month : 1 ≤ p.month ∧ p.month ≤ 12
  day : 1 ≤ p.day ∧ p.day ≤ 31
  hour : p.hour ≤ 23
  minute : p.minute ≤ 59
  second : p.second ≤ 60
  nanos : p.nanos < nanosPerSecond
  offset : p.offset = 0

/-- There is such an instant in universal time: it is in the range, and a leap second is the last
second of a minute. -/
structure Representable (t : Instant) : Prop where
  inRange : t.InRange
  leap : nanosPerSecond ≤ t.nanos → t.seconds % 60 = 59

/-- The parts of an instant in universal time. -/
def parts (t : Instant) : Parts where
  year := (Date.ofDayNumber (t.seconds / 86400)).year
  month := (Date.ofDayNumber (t.seconds / 86400)).month
  day := (Date.ofDayNumber (t.seconds / 86400)).day
  hour := (t.seconds % 86400).toNat / 3600
  minute := (t.seconds % 86400).toNat / 60 % 60
  second := (t.seconds % 86400).toNat % 60 + (if nanosPerSecond ≤ t.nanos then 1 else 0)
  nanos := t.nanos - (if nanosPerSecond ≤ t.nanos then 1 else 0) * nanosPerSecond
  offset := 0

variable {t : Instant}

theorem Representable.dayNumber_bounds (h : t.Representable) :
    -96465292 ≤ t.seconds / 86400 ∧ t.seconds / 86400 ≤ 95026236 := by
  have hfirst : firstSecond = -8334601228800 := rfl
  have hlast : lastSecond = 8210266876799 := rfl
  obtain ⟨hleast, hgreatest, -⟩ := h.inRange
  omega

theorem Representable.plain (h : t.Representable) : t.parts.Plain := by
  have hnano : nanosPerSecond = 1000000000 := rfl
  obtain ⟨hleast, hgreatest⟩ := h.dayNumber_bounds
  obtain ⟨-, -, hnanos⟩ := h.inRange
  have hday := Date.day_ofDayNumber (t.seconds / 86400)
  have hmonth : ∀ y m, Date.daysInMonth y m ≤ 31 := by
    intro y m
    unfold Date.daysInMonth
    split <;> split <;> omega
  exact {
    year := Date.year_ofDayNumber hleast hgreatest
    month := Date.ofDayNumber_month _
    day := ⟨hday.1, Nat.le_trans hday.2 (hmonth _ _)⟩
    hour := by
      simp only [parts]
      omega
    minute := by
      simp only [parts]
      omega
    second := by
      simp only [parts]
      split <;> omega
    nanos := by
      simp only [parts]
      split <;> omega
    offset := rfl }

end Accounts.Instant
