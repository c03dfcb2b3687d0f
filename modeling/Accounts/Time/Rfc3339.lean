import Accounts.Text.Blank
import Accounts.Text.Integer
import Accounts.Time.Instant
/-!
# Dates and times as text

Instants are written as `2024-01-01T00:00:00.123Z` with 0, 3, 6 or 9 digits of
the second, as many as are needed.  A year below 0 or above 9999 is written with
its sign.

There are two readers.  The strict one takes exactly the written form with any
offset.  The lenient one also takes single digits, blanks between the parts,
signed years, the word `UTC`, and offsets without a colon.  Both read from the
left and stop at the first fault.  The lenient reader checks the range of a part
where it stands, and the day of the month at the end; the strict one checks the date
once it is read, and the time once its form is right.
-/

namespace Accounts

open Text

/-! ## Writing -/

/-- How the offset from universal time is written. -/
inductive OffsetStyle
  /-- As the letter `Z`. -/
  | zulu
  /-- As `+00:00`. -/
  | numeric
deriving DecidableEq, Repr

namespace Instant

/-- The year of a date, with a sign outside of 0 to 9999. -/
def yearText (y : Int) : String :=
  if 0 ≤ y ∧ y ≤ 9999 then paddedText 4 y.natAbs
  else (if y < 0 then "-" else "+") ++ paddedText (if y.natAbs < 10000 then 4 else 5) y.natAbs

/-- The digits of the second, as many as are needed. -/
def fractionText (nanos : Nat) : String :=
  if nanos = 0 then ""
  else if nanos % 1000000 = 0 then "." ++ paddedText 3 (nanos / 1000000)
  else if nanos % 1000 = 0 then "." ++ paddedText 6 (nanos / 1000)
  else "." ++ paddedText 9 nanos

/-- The date and the time of an instant, with the given text in between. -/
def dateTimeText (between : String) (t : Instant) : String :=
  let d := Date.ofDayNumber (t.seconds / 86400)
  let s := (t.seconds % 86400).toNat
  let leap := if nanosPerSecond ≤ t.nanos then 1 else 0
  yearText d.year ++ "-" ++ paddedText 2 d.month ++ "-" ++ paddedText 2 d.day ++ between ++
    paddedText 2 (s / 3600) ++ ":" ++ paddedText 2 (s / 60 % 60) ++ ":" ++
    paddedText 2 (s % 60 + leap) ++ fractionText (t.nanos - leap * nanosPerSecond)

/-- The text of an instant. -/
def rfc3339 (style : OffsetStyle) (t : Instant) : String :=
  dateTimeText "T" t ++ (match style with | .zulu => "Z" | .numeric => "+00:00")

/-- The text of an instant in messages. -/
def shown (t : Instant) : String := dateTimeText " " t ++ " UTC"

end Instant

/-! ## Reading -/

/-- What is wrong with a text that should be an instant. -/
inductive InstantFault
  /-- A part is out of its range. -/
  | outOfRange
  /-- There is no such instant. -/
  | impossible
  /-- A character is not the expected one. -/
  | invalid
  /-- The text ends too early. -/
  | tooShort
  /-- Something follows the instant. -/
  | tooLong
deriving DecidableEq, Repr

/-- The message of a fault. -/
def InstantFault.message : InstantFault → String
  | .outOfRange => "input is out of range"
  | .impossible => "no possible date and time matching input"
  | .invalid => "input contains invalid characters"
  | .tooShort => "premature end of input"
  | .tooLong => "trailing input"

/-- The short name of a fault, used in diagnostics. -/
def InstantFault.name : InstantFault → String
  | .outOfRange => "OutOfRange"
  | .impossible => "Impossible"
  | .invalid => "Invalid"
  | .tooShort => "TooShort"
  | .tooLong => "TooLong"

namespace Instant

/-- Reads a part of a text and returns the rest. -/
abbrev Reader (α : Type) := List Char → Except InstantFault (α × List Char)

/-- How many bytes a list of characters takes. -/
def byteLength (cs : List Char) : Nat := cs.foldl (fun n c => n + c.utf8Size) 0

/-- Reads between `least` and `most` digits. -/
def number (least most : Nat) : Reader Nat := fun cs =>
  if byteLength cs < least then .error .tooShort
  else
    let ds := (cs.take most).takeWhile Char.isDigit
    if ds.length < least then .error .invalid
    else
      let n := ds.foldl (fun n c => n * 10 + (c.toNat - '0'.toNat)) 0
      if n < Nat.pow 2 63 then .ok (n, cs.drop ds.length) else .error .outOfRange

/-- Reads one given character. -/
def literal (c : Char) : Reader Unit
  | [] => .error .tooShort
  | d :: cs => if d = c then .ok ((), cs) else .error .invalid

/-- A number of a part, checked against its range. -/
def within (least most n : Nat) : Except InstantFault Nat :=
  if least ≤ n ∧ n ≤ most then .ok n else .error .outOfRange

/-- Reads the digits behind the point of a second as nanoseconds. -/
def fraction : Reader Nat
  | '.' :: cs => do
    let (n, rest) ← number 1 9 cs
    return (n * Nat.pow 10 (9 - (cs.length - rest.length)), rest.dropWhile Char.isDigit)
  | cs => .ok (0, cs)

/-- Reads what separates the date from the time. -/
def dateTimeSeparator : Reader Unit
  | [] => .error .tooShort
  | c :: cs => if c = 't' ∨ c = 'T' ∨ c = ' ' then .ok ((), cs) else .error .invalid

/-- The first two bytes as digits, the first of them below the given digit. -/
def twoDigits : Reader (Nat × Nat) := fun cs =>
  if byteLength cs < 2 then .error .tooShort
  else match cs with
    | a :: b :: rest =>
      if a.isDigit ∧ b.isDigit then .ok ((a.toNat - '0'.toNat, b.toNat - '0'.toNat), rest)
      else .error .invalid
    | _ => .error .invalid

/-- Reads an offset as seconds, with the given reader between hours and minutes. -/
def offset (separator : Reader Unit) : Reader Int
  | [] => .error .tooShort
  | c :: cs =>
    if c = 'Z' ∨ c = 'z' then .ok (0, cs)
    else if c = '+' ∨ c = '-' ∨ c = '\u2212' then do
      let ((h₁, h₂), rest) ← twoDigits cs
      let ((), rest) ← separator rest
      let ((m₁, m₂), rest) ← twoDigits rest
      if 6 ≤ m₁ then throw .outOfRange
      let seconds : Int := (h₁ * 10 + h₂) * 3600 + (m₁ * 10 + m₂) * 60
      return (if c = '+' then seconds else -seconds, rest)
    else .error .invalid

/-- The parts of a date and time. -/
structure Parts where
  /-- The year. -/
  year : Int
  /-- The month. -/
  month : Nat
  /-- The day. -/
  day : Nat
  /-- The hour. -/
  hour : Nat
  /-- The minute. -/
  minute : Nat
  /-- The second, 60 in a leap second. -/
  second : Nat
  /-- The nanoseconds. -/
  nanos : Nat
  /-- The offset from universal time in seconds. -/
  offset : Int
deriving DecidableEq, Repr

/-- The instant that the parts name. -/
def Parts.instant (p : Parts) : Except InstantFault Instant :=
  if p.year < -262143 ∨ 262142 < p.year ∨ Date.daysInMonth p.year p.month < p.day then
    .error .outOfRange
  else if p.offset ≤ -86400 ∨ 86400 ≤ p.offset then .error .outOfRange
  else
    let leap := if p.second = 60 then 1 else 0
    let seconds := Date.dayNumber ⟨p.year, p.month, p.day⟩ * 86400 + p.hour * 3600 + p.minute * 60 +
      (p.second - leap : Nat) - p.offset
    if firstSecond ≤ seconds ∧ seconds ≤ lastSecond then
      .ok ⟨seconds, p.nanos + leap * nanosPerSecond⟩
    else .error .impossible

/-- Reads a year that may have a sign; without one it has at most four digits. -/
def signedYear : Reader Int
  | '-' :: cs => do
    let (n, rest) ← number 1 cs.length cs
    return (-n, rest)
  | '+' :: cs => do
    let (n, rest) ← number 1 cs.length cs
    return (n, rest)
  | cs => do
    let (n, rest) ← number 1 4 cs
    return (n, rest)

/-- A year that fits in 32 bits. -/
def checkedYear (y : Int) : Except InstantFault Int :=
  if -Int.pow 2 31 ≤ y ∧ y < Int.pow 2 31 then .ok y else .error .outOfRange

/-- Reads one or two digits after blanks, checked against a range. -/
def looseNumber (least most : Nat) : Reader Nat := fun cs => do
  let (n, rest) ← number 1 2 (dropBlank cs)
  return (← within least most n, rest)

/-- Reads one given character after blanks. -/
def looseLiteral (c : Char) : Reader Unit := fun cs => literal c (dropBlank cs)

/-- Drops colons and blanks. -/
def looseColon : Reader Unit := fun cs =>
  .ok ((), cs.dropWhile fun c => c == ':' || isBlank c)

/-- Reads an offset or the word `UTC`. -/
def looseOffset : Reader Int := fun cs =>
  match cs with
  | a :: b :: c :: rest =>
    if a.toUpper = 'U' ∧ b.toUpper = 'T' ∧ c.toUpper = 'C' then .ok (0, rest)
    else offset looseColon cs
  | _ => offset looseColon cs

/-- Reads an instant leniently. -/
def parseLenient (s : String) : Except InstantFault Instant := do
  let (year, cs) ← signedYear (dropBlank s.toList)
  let year ← checkedYear year
  let ((), cs) ← looseLiteral '-' cs
  let (month, cs) ← looseNumber 1 12 cs
  let ((), cs) ← looseLiteral '-' cs
  let (day, cs) ← looseNumber 1 31 cs
  let ((), cs) ← dateTimeSeparator cs
  let (hour, cs) ← looseNumber 0 23 cs
  let ((), cs) ← looseLiteral ':' cs
  let (minute, cs) ← looseNumber 0 59 cs
  let ((), cs) ← looseLiteral ':' cs
  let (second, cs) ← looseNumber 0 60 cs
  let (nanos, cs) ← fraction cs
  let (offset, cs) ← looseOffset (dropBlank cs)
  if dropBlank cs ≠ [] then throw .tooLong
  Parts.instant { year, month, day, hour, minute, second, nanos, offset }

/-- The largest offset that the strict reader takes, in seconds. -/
def maxOffset : Int := (23 * 60 + 59) * 60

/-- How many bytes a date and a time of whole seconds take. -/
def dateTimeLength : Nat := 19

/-- Reads an instant strictly.  The date is checked before the time is read, and the
time only after its form. -/
def parseStrict (s : String) : Except InstantFault Instant := do
  if byteLength s.toList < dateTimeLength then throw .tooShort
  let (year, cs) ← number 4 4 s.toList
  let ((), cs) ← literal '-' cs
  let (month, cs) ← number 2 2 cs
  let ((), cs) ← literal '-' cs
  let (day, cs) ← number 2 2 cs
  let month ← within 1 12 month
  let day ← within 1 (Date.daysInMonth year month) day
  let ((), cs) ← dateTimeSeparator cs
  let (hour, cs) ← number 2 2 cs
  let ((), cs) ← literal ':' cs
  let (minute, cs) ← number 2 2 cs
  let ((), cs) ← literal ':' cs
  let (second, cs) ← number 2 2 cs
  let (nanos, cs) ← fraction cs
  let hour ← within 0 23 hour
  let minute ← within 0 59 minute
  let second ← within 0 60 second
  let (offset, cs) ← offset (literal ':') cs
  if offset < -maxOffset ∨ maxOffset < offset then throw .outOfRange
  if cs ≠ [] then throw .tooLong
  Parts.instant { year, month, day, hour, minute, second, nanos, offset }

end Instant

end Accounts
